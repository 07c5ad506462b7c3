import JobDispatch.CoprBuild
import JobDispatch.PackageConfig
import JobDispatch.Project
import JobDispatch.Proofs.Reader

/-! Domain values read back from the JSON they are written to. What a text says about a package in
one of several forms is written in one form, which says the same. -/

namespace JobDispatch

open Json Reader

variable {o inner : Origin} {f : Float → Float}

lemma Side.readsBack (s : Side) : Side.read.ReadsBack toJson o s :=
  readsBack_choice (by cases s <;> rfl)

lemma Trigger.readsBack (t : Trigger) : Trigger.read.ReadsBack toJson o t :=
  readsBack_choice (by cases t <;> rfl)

lemma JobType.readsBack (j : JobType) : JobType.read.ReadsBack toJson o j :=
  readsBack_choice (by cases j <;> rfl)

lemma Project.readsBack (ho : o.enter = .ok inner) (p : Project) :
    Project.read.ReadsBack toJson o p := by
  refine record_ofMembers ⟨some p.owner, some p.repo, some p.side⟩ ho ?_ rfl
  simp [Document.ofMembers, putMembers, Draft.put, fill_ofJson (readsBack_text _),
    fill_ofJson p.side.readsBack]

lemma ServiceConfig.readsBack (ho : o.enter = .ok inner) (c : ServiceConfig) :
    ServiceConfig.read.ReadsBack toJson o c := by
  refine record_ofMembers ⟨some c.upstreamBranch⟩ ho ?_ rfl
  simp [Document.ofMembers, putMembers, Draft.put, fill_ofJson (readsBack_text _)]

lemma CoprBuild.readsBack (ho : o.enter = .ok inner) (b : CoprBuild) :
    CoprBuild.read.ReadsBack toJson o b := by
  refine record_ofMembers ⟨some b.buildId, some b.infoUrl⟩ ho ?_ rfl
  simp [Document.ofMembers, putMembers, Draft.put, fill_ofJson (readsBack_text _),
    fill_ofJson (readsBack_natural _)]

lemma CoprBuildRequest.readsBack (ho : o.enter = .ok inner) {inmost : Origin}
    (hi : inner.enter = .ok inmost) (r : CoprBuildRequest) :
    CoprBuildRequest.read.ReadsBack toJson o r := by
  have hchroots := readsBack_list hi fun s (_ : s ∈ r.chroots) => readsBack_text s
  refine record_ofMembers
    ⟨some r.owner, some r.project, some r.committish, some r.cloneUrl, some r.chroots⟩
    ho ?_ rfl
  simp [Document.ofMembers, putMembers, Draft.put, fill_ofJson (readsBack_text _),
    fill_ofJson hchroots]

lemma CommentTarget.readsBack (ho : o.enter = .ok inner) (t : CommentTarget) :
    CommentTarget.read.ReadsBack toJson o t := by
  cases t with
  | commit sha => exact tagged_ofJson (b := .commit) ho rfl rfl
  | pullRequest number => exact tagged_ofJson (b := .pullRequest) ho rfl rfl

namespace JobConfig

lemma readsBack (ho : o.enter = .ok inner) {c : JobConfig}
    (hm : members.ReadsBack .object inner c.metadata) : read.ReadsBack toJson o c := by
  refine record_ofMembers ⟨some c.job, some c.trigger, some c.metadata⟩ ho ?_ rfl
  simp [Document.ofMembers, putMembers, Draft.put, fill_ofJson c.job.readsBack,
    fill_ofJson c.trigger.readsBack, fill_ofJson hm]

def mapFloats (f : Float → Float) (c : JobConfig) : JobConfig :=
  { c with metadata := Json.mapMembers f c.metadata }

lemma Draft.metadata_of_put {key : String} {d : Document} {draft draft' : Draft}
    (h : Draft.put key o d draft = .ok draft') :
    draft'.metadata = draft.metadata ∨ ∃ ms, draft'.metadata = some ms ∧ members o d = .ok ms := by
  unfold Draft.put at h
  split at h
  · obtain ⟨_, -, rfl⟩ := bind_pure_eq_ok.mp h
    exact .inl rfl
  · obtain ⟨_, -, rfl⟩ := bind_pure_eq_ok.mp h
    exact .inl rfl
  · obtain ⟨_, hfill, rfl⟩ := bind_pure_eq_ok.mp h
    exact .inr (exists_of_fill hfill)
  · obtain rfl := Except.ok.inj h
    exact .inl rfl

lemma exists_of_read (ho : o.enter = .ok inner) {d : Document} {c : JobConfig}
    (h : read o d = .ok c) :
    c.metadata = [] ∨ ∃ part ∈ d.parts, members inner part = .ok c.metadata := by
  obtain ⟨absent, draft, hc, hfound⟩ :=
    exists_of_record_field ho h (fun _ _ _ _ => Draft.metadata_of_put) rfl
  obtain ⟨job, -, hc⟩ := bind_eq_ok.mp hc
  obtain ⟨trigger, -, rfl⟩ := bind_pure_eq_ok.mp hc
  cases hm : draft.metadata with
  | none => exact .inl rfl
  | some ms => exact .inr (hfound ms hm)

lemma readsBack_of_read (hl : o.Allows 2) {d : Document} {c : JobConfig}
    (h : read o d = .ok c) : read.ReadsBack toJson o (c.mapFloats f) := by
  obtain ⟨inner, ho, hl⟩ := hl.enter
  obtain ⟨inmost, hi, -⟩ := hl.enter
  refine readsBack ho ?_
  rcases exists_of_read ho h with hc | ⟨part, -, hpart⟩
  · have hnone : members.ReadsBack .object inner (inmost.gather []) :=
      readsBack_gather hi (by simp)
    simpa [mapFloats, hc, Json.mapMembers] using hnone
  · exact readsBack_of_members hpart

lemma floats_of_read (ho : o.enter = .ok inner) {d : Document} {c : JobConfig}
    (h : read o d = .ok c) : Json.memberFloats c.metadata ⊆ d.floats := by
  rcases exists_of_read ho h with hc | ⟨part, hpart, hread⟩
  · rw [hc]
    exact List.nil_subset _
  · exact List.Subset.trans (floats_of_members hread) (Document.floats_of_mem_parts hpart)

lemma readsBack_value (c : JobConfig) : read.ReadsBack toJson .value c :=
  readsBack rfl (readsBack_members_value fun m _ => Reader.readsBack_value m.2)

end JobConfig

namespace PackageConfig

lemma readsBack (ho : o.enter = .ok inner) {p : PackageConfig}
    (hjobs : (list JobConfig.read).ReadsBack (fun cs => .array (cs.map JobConfig.toJson)) inner
      p.jobs) : read.ReadsBack toJson o p := by
  refine record_ofMembers ⟨some p.jobs, some p.upstreamProjectUrl,
    some p.downstreamPackageName, some p.specfilePath⟩ ho ?_ rfl
  simp [Document.ofMembers, putMembers, Draft.put, fill_ofJson hjobs,
    fill_ofJson (readsBack_optional _)]

def floats (p : PackageConfig) : List Float :=
  p.jobs.flatMap fun c => Json.memberFloats c.metadata

def mapFloats (f : Float → Float) (p : PackageConfig) : PackageConfig :=
  { p with jobs := p.jobs.map (JobConfig.mapFloats f) }

lemma Draft.jobs_of_put {key : String} {d : Document} {draft draft' : Draft}
    (h : Draft.put key o d draft = .ok draft') :
    draft'.jobs = draft.jobs ∨
      ∃ jobs, draft'.jobs = some jobs ∧ list JobConfig.read o d = .ok jobs := by
  unfold Draft.put at h
  split at h
  · obtain ⟨_, hfill, rfl⟩ := bind_pure_eq_ok.mp h
    exact .inr (exists_of_fill hfill)
  · obtain ⟨_, -, rfl⟩ := bind_pure_eq_ok.mp h
    exact .inl rfl
  · obtain ⟨_, -, rfl⟩ := bind_pure_eq_ok.mp h
    exact .inl rfl
  · obtain ⟨_, -, rfl⟩ := bind_pure_eq_ok.mp h
    exact .inl rfl
  · obtain rfl := Except.ok.inj h
    exact .inl rfl

lemma exists_of_read (ho : o.enter = .ok inner) {d : Document} {p : PackageConfig}
    (h : read o d = .ok p) :
    p.jobs = [] ∨ ∃ part ∈ d.parts, list JobConfig.read inner part = .ok p.jobs := by
  obtain ⟨absent, draft, hp, hfound⟩ :=
    exists_of_record_field ho h (fun _ _ _ _ => Draft.jobs_of_put) rfl
  obtain rfl := Except.ok.inj hp
  cases hj : draft.jobs with
  | none => exact .inl rfl
  | some jobs => exact .inr (hfound jobs hj)

-- All fields are written, so that the list of jobs, each job and its metadata take a level each,
-- even where the document had none of them.
lemma readsBack_of_read (hl : o.Allows 4) {d : Document} {p : PackageConfig}
    (h : read o d = .ok p) : read.ReadsBack toJson o (p.mapFloats f) := by
  obtain ⟨inner, ho, hl⟩ := hl.enter
  obtain ⟨inmost, hi, hl⟩ := hl.enter
  refine readsBack ho (readsBack_list hi (List.forall_mem_map.mpr fun c hc => ?_))
  rcases exists_of_read ho h with hp | ⟨part, -, hpart⟩
  · exact absurd hc (hp ▸ List.not_mem_nil)
  · obtain ⟨d, -, hd⟩ := exists_of_list hi hpart c hc
    exact JobConfig.readsBack_of_read hl hd

lemma floats_of_read (hl : o.Allows 3) {d : Document} {p : PackageConfig}
    (h : read o d = .ok p) : p.floats ⊆ d.floats := by
  obtain ⟨inner, ho, hl⟩ := hl.enter
  obtain ⟨inmost, hi, hl⟩ := hl.enter
  obtain ⟨_, hj, -⟩ := hl.enter
  intro x hx
  obtain ⟨c, hc, hx⟩ := List.mem_flatMap.mp hx
  rcases exists_of_read ho h with hp | ⟨part, hpart, hread⟩
  · exact absurd hc (hp ▸ List.not_mem_nil)
  · obtain ⟨d', hd', hread'⟩ := exists_of_list hi hread c hc
    have hx := Document.floats_of_mem_parts hd' (JobConfig.floats_of_read hj hread' hx)
    exact Document.floats_of_mem_parts hpart hx

lemma floats_toJson (p : PackageConfig) : p.toJson.floats = p.floats := by
  have hc (c : JobConfig) : c.toJson.floats = Json.memberFloats c.metadata := by
    simp [JobConfig.toJson, JobType.toJson, Trigger.toJson, Json.floats, Json.memberFloats]
  have hs (s : Option String) : (Json.ofOption .text s).floats = [] := by cases s <;> rfl
  simp [toJson, floats, Json.floats, Json.memberFloats, itemFloats_eq_flatMap, List.flatMap_map, hc,
    hs]

lemma toJson_mapFloats (f : Float → Float) (p : PackageConfig) :
    (p.mapFloats f).toJson = p.toJson.mapFloats f := by
  have hs (s : Option String) : (Json.ofOption .text s).mapFloats f = Json.ofOption .text s := by
    cases s <;> rfl
  simp [toJson, mapFloats, Json.mapFloats, Json.mapMembers, mapItems_eq_map, hs]
  exact fun _ _ => rfl

lemma mapFloats_eq_self {p : PackageConfig} (h : ∀ x ∈ p.floats, f x = x) : p.mapFloats f = p := by
  have hc : ∀ c ∈ p.jobs, c.mapFloats f = c := fun c hc => by
    rw [JobConfig.mapFloats,
      mapMembers_eq_self _ fun x hx => h x (List.mem_flatMap.mpr ⟨c, hc, hx⟩)]
  have hjobs : p.jobs.map (JobConfig.mapFloats f) = p.jobs :=
    (List.map_congr_left hc).trans (List.map_id _)
  rw [mapFloats, hjobs]

lemma ofText_written {spell : Float → Literal} {text : String} {p : PackageConfig}
    (h : read.ofText text = .ok p) (hspell : ∀ x ∈ p.floats, (spell x).ReadsAs (f x)) :
    read.ofText (p.toJson.written spell) = .ok (p.mapFloats f) := by
  obtain ⟨d, -, hd⟩ := ofText_eq_ok_iff.mp h
  have hwhole : Origin.whole.Allows 4 := show 4 ≤ 127 by decide
  rw [← floats_toJson] at hspell
  refine ofText_eq_ok_iff.mpr ⟨_, Document.ofChars_written hspell, ?_⟩
  rw [← toJson_mapFloats]
  exact readsBack_of_read hwhole hd

lemma exists_spelling {text : String} {p : PackageConfig} (h : read.ofText text = .ok p) :
    ∃ spell : Float → Literal, ∀ x ∈ p.floats, (spell x).ReadsAs x := by
  obtain ⟨d, hchars, hd⟩ := ofText_eq_ok_iff.mp h
  have hwhole : Origin.whole.Allows 3 := show 3 ≤ 127 by decide
  have hspelled : ∀ x, ∃ l : Literal, x ∈ p.floats → l.ReadsAs x := by
    intro x
    by_cases hx : x ∈ p.floats
    · obtain ⟨l, hl⟩ := Document.exists_literal_of_ofChars hchars (floats_of_read hwhole hd hx)
      exact ⟨l, fun _ => hl⟩
    · exact ⟨⟨false, [], none, none⟩, fun hmem => absurd hmem hx⟩
  choose spell hspell using hspelled
  exact ⟨spell, hspell⟩

lemma readsBack_value (p : PackageConfig) : read.ReadsBack toJson .value p :=
  readsBack rfl (readsBack_list rfl fun c _ => c.readsBack_value)

end PackageConfig

section Built

def PackageConfig.given (x : Float) : Json :=
  .object [
    ("other", .array [Json.ofNat 1]),
    ("specfile_path", .null),
    ("jobs", .array [
      .array [.text "copr_build", .text "release",
        .object [("targets", .array [.text "f40"]),
          ("owner", .object [("b", .number (.float x)), ("a", Json.ofNat 3)])]],
      .object [("trigger", .text "commit"), ("job", .text "build")]])]

def PackageConfig.built (x : Float) : PackageConfig where
  jobs := [
    ⟨.coprBuild, .release,
      [("owner", .object [("a", Json.ofNat 3), ("b", .number (.float x))]),
        ("targets", .array [.text "f40"])]⟩,
    ⟨.build, .commit, []⟩]

def PackageConfig.givenText : String :=
  "\x7b\"other\":[1],\"specfile_path\":null,\"jobs\":[[\"copr_build\",\"release\"," ++
    "\x7b\"targets\":[\"f40\"],\"owner\":\x7b\"b\":15e-1,\"a\":3\x7d\x7d]," ++
    "\x7b\"trigger\":\"commit\",\"job\":\"build\"\x7d]\x7d"

def PackageConfig.builtText : String :=
  "\x7b\"downstream_package_name\":null,\"jobs\":[\x7b\"job\":\"copr_build\",\"metadata\":" ++
    "\x7b\"owner\":\x7b\"a\":3,\"b\":1.5\x7d,\"targets\":[\"f40\"]\x7d," ++
    "\"trigger\":\"release\"\x7d,\x7b\"job\":\"build\",\"metadata\":\x7b\x7d," ++
    "\"trigger\":\"commit\"\x7d],\"specfile_path\":null,\"upstream_project_url\":null\x7d"

end Built

end JobDispatch
