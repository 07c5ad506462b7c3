import JobDispatch.Offline.Replay
import JobDispatch.Proofs.Answers

namespace JobDispatch.Replay

variable (files : Files Id) (configDir : String)

def root (side : Side) : String := joinPath configDir side.name

def Opens (side : Side) : Prop := files.isDirectory (root configDir side) = true

def Holds (side : Side) (p : Project) (package : PackageConfig) : Prop :=
  ∃ content,
    files.readText (joinPath (joinPath (root configDir side) p.owner) (p.repo ++ ".json")) =
      (.ok content : Except FileError String) ∧
    PackageConfig.read.ofText content = .ok package

def specPath (p : Project) (specfile : String) : String :=
  joinPath (joinPath (joinPath (root configDir .downstream) p.owner) p.repo) specfile

inductive SourceAt (package : PackageConfig) (p : Project) (address : String) : Prop
  | configured : package.upstreamProjectUrl = some address →
      (∀ specfile, package.specfile? = some specfile →
        files.readText (specPath configDir p specfile) =
          (.error .missing : Except FileError String)) → SourceAt package p address
  | tagged {specfile content : String} : package.specfile? = some specfile →
      files.readText (specPath configDir p specfile) = (.ok content : Except FileError String) →
      SpecFile.url? content = some address → SourceAt package p address

def answers : Answers where
  reach side
    | .ok kind => kind = side ∧ Opens files configDir side
    | .error _ => ¬ Opens files configDir side
  forge side
    | .packageConfig p _, answer =>
      ∀ package, answer = .ok package ↔ Holds files configDir side p package
    | .taggedCommit .., answer => ∃ err, answer = .error err
    | .comment .., answer => answer = .ok ()
  packaging
    | .sourceUrl package p, answer =>
      ∀ address, answer = .ok (some address) ↔ SourceAt files configDir package p address
    | .carryBack .., answer | .checkPullRequest .., answer | .proposeRelease .., answer
    | .build .., answer => ∃ a, answer = .ok a

section Keep

lemma configOf_eq_ok_iff {p : Project} {ref path : String} {x : Except FileError String}
    {package : PackageConfig} :
    ConfigForge.configOf p ref path x = .ok package ↔
      ∃ content, x = .ok content ∧ PackageConfig.read.ofText content = .ok package := by
  cases x with
  | error e => cases e <;> simp [ConfigForge.configOf]
  | ok content =>
    cases hr : PackageConfig.read.ofText content <;>
      simp [ConfigForge.configOf, hr, Except.mapError]

lemma urlOf_eq_ok_some_iff {package : PackageConfig} {path address : String}
    {x : Except FileError String} :
    (Recorder.urlOf package path x).value = .ok (some address) ↔
      (x = .error .missing ∧ package.upstreamProjectUrl = some address) ∨
        ∃ content, x = .ok content ∧ SpecFile.url? content = some address := by
  cases x with
  | error e => cases e <;> simp [Recorder.urlOf]
  | ok content => simp [Recorder.urlOf]

abbrev fresh : Collaborators Extras.none (StateM UInt64) := collaborators files configDir

def forge (side : Side) : Forge (StateM UInt64) :=
  ConfigForge.forge files.lift ⟨side, root configDir side⟩

lemma connect_value (side : Side) (s : UInt64) :
    ((((fresh files configDir).link side).connect s).1.value =
        .ok (forge files configDir side) ∧ Opens files configDir side) ∨
      ((∃ err, (((fresh files configDir).link side).connect s).1.value = .error err) ∧
        ¬ Opens files configDir side) := by
  have hl : (fresh files configDir).link side = link files configDir side := by cases side <;> rfl
  rw [hl]
  by_cases ho : Opens files configDir side
  · left
    refine ⟨?_, ho⟩
    have ho : files.isDirectory (joinPath configDir side.name) = true := ho
    simp only [link, ConfigForge.connect, Files.lift, ho]
    rfl
  · right
    refine ⟨?_, ho⟩
    have ho : files.isDirectory (joinPath configDir side.name) = false := Bool.eq_false_iff.mpr ho
    simp only [link, ConfigForge.connect, Files.lift, ho]
    exact ⟨_, rfl⟩

lemma lift_readText (path : String) (s : UInt64) :
    (files.lift : Files (StateM UInt64)).readText path s = (files.readText path, s) := by
  simp only [Files.readText, Files.lift]
  generalize hr : files.read path = x
  cases x with
  | ok bytes => rfl
  | error e => rfl

lemma forge_packageConfig (side : Side) (p : Project) (ref : String) (s : UInt64) :
    ((forge files configDir side).ask (.packageConfig p ref) s).1.value =
      ConfigForge.configOf p ref
        (joinPath (joinPath (root configDir side) p.owner) (p.repo ++ ".json"))
        (files.readText
          (joinPath (joinPath (root configDir side) p.owner) (p.repo ++ ".json"))) := by
  simp only [forge, ConfigForge.forge, ConfigForge.ask, stateM_bind, lift_readText]
  rfl

lemma packaging_noSpecfile {package : PackageConfig} {p : Project} {s : UInt64}
    (hf : package.specfile? = none) :
    ((fresh files configDir).packaging.ask (.sourceUrl package p) s).1.value =
      .ok package.upstreamProjectUrl := by
  simp only [collaborators, Recorder.packaging, Recorder.ask, hf]
  rfl

lemma packaging_specfile {package : PackageConfig} {p : Project} {specfile : String} {s : UInt64}
    (hf : package.specfile? = some specfile) :
    ((fresh files configDir).packaging.ask (.sourceUrl package p) s).1.value =
      (Recorder.urlOf package (specPath configDir p specfile)
        (files.readText (specPath configDir p specfile))).value := by
  simp only [collaborators, Recorder.packaging, Recorder.ask, hf]
  rfl

lemma keep_answers : (fresh files configDir).Keep (answers files configDir) := by
  have hg : ∀ side x, ((fresh files configDir).link side).Gives x →
      (x = .ok (forge files configDir side) ∧ Opens files configDir side) ∨
        ((∃ err, x = .error err) ∧ ¬ Opens files configDir side) := by
    intro side x hx
    have hx : ∃ s, (((fresh files configDir).link side).connect s).1.value = x := by
      cases side <;> exact hx
    obtain ⟨s, rfl⟩ := hx
    exact connect_value files configDir side s
  refine ⟨?_, ?_, ?_⟩
  · intro side x hx
    rcases hg side x hx with ⟨rfl, ho⟩ | ⟨⟨err, rfl⟩, ho⟩
    · exact ⟨rfl, ho⟩
    · exact ho
  · intro side f call s hf
    rcases hg side _ hf with ⟨hf, -⟩ | ⟨⟨err, hf⟩, -⟩
    · obtain rfl := Except.ok.inj hf
      cases call with
      | packageConfig p ref =>
        intro package
        rw [forge_packageConfig]
        exact configOf_eq_ok_iff
      | taggedCommit p tag => exact ⟨_, rfl⟩
      | comment p target body => rfl
    · cases hf
  · intro call s
    cases call with
    | sourceUrl package p =>
      intro address
      cases hf : package.specfile? with
      | none =>
        rw [packaging_noSpecfile files configDir hf]
        constructor
        · intro h
          exact .configured (Except.ok.inj h) fun specfile hs => by simp [hf] at hs
        · rintro (⟨h, -⟩ | ⟨hs, -, -⟩)
          · rw [h]
          · simp [hf] at hs
      | some specfile =>
        rw [packaging_specfile files configDir hf]
        refine Iff.trans urlOf_eq_ok_some_iff ?_
        constructor
        · rintro (⟨hx, h⟩ | ⟨content, hx, h⟩)
          · refine .configured h fun other hs => ?_
            obtain rfl := Option.some.inj (hf.symm.trans hs)
            exact hx
          · exact .tagged hf hx h
        · rintro (⟨h, hx⟩ | ⟨hs, hx, h⟩)
          · exact .inl ⟨hx specfile hf, h⟩
          · obtain rfl := Option.some.inj (hf.symm.trans hs)
            exact .inr ⟨_, hx, h⟩
    | carryBack | checkPullRequest | proposeRelease | build => exact ⟨_, rfl⟩

end Keep

end JobDispatch.Replay
