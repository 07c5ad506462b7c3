import JobDispatch.Proofs.Dispatch

/-! The standard registry: which built-in handler serves which job type for which trigger, and what
the reading of a field does on the paths of these handlers. -/

namespace JobDispatch

variable {X : Extras} {α β : Type}

inductive Builtin : Trigger → JobType → Handler X → Prop
  | proposeDownstream : Builtin .release .proposeDownstream Handler.proposeDownstream
  | buildRelease : Builtin .release .coprBuild Handler.coprBuild
  | checkDownstream : Builtin .pullRequest .checkDownstream Handler.checkDownstream
  | buildPullRequest : Builtin .pullRequest .coprBuild Handler.coprBuild
  | syncFromDownstream : Builtin .commit .syncFromDownstream Handler.syncFromDownstream

namespace Registry

variable {r : Registry X} {t : Trigger} {j : JobType} {h : Handler X}

def builtin? : JobType → Option (Handler X)
  | .proposeDownstream => some Handler.proposeDownstream
  | .checkDownstream => some Handler.checkDownstream
  | .syncFromDownstream => some Handler.syncFromDownstream
  | .coprBuild => some Handler.coprBuild
  | .build => none

lemma standard_value : (standard (X := X)).value = .ok ⟨builtin?⟩ := by
  have hf : ((((empty.insert Handler.syncFromDownstream).insert Handler.checkDownstream).insert
      Handler.proposeDownstream).insert (Handler.coprBuild (X := X))).handler? = builtin? := by
    funext j
    cases j <;> rfl
  rw [← hf]
  rfl

lemma standard_builtin (hr : standard.value = .ok r) (hj : r.handler? j = some h)
    (ht : t ∈ h.triggers) : Builtin t j h := by
  obtain rfl := Except.ok.inj (standard_value.symm.trans hr)
  change builtin? j = some h at hj
  cases j with
  | build => simp [builtin?] at hj
  | proposeDownstream =>
    obtain rfl := Option.some.inj hj
    obtain rfl : t = .release := by simpa [Handler.proposeDownstream] using ht
    exact .proposeDownstream
  | checkDownstream =>
    obtain rfl := Option.some.inj hj
    obtain rfl : t = .pullRequest := by simpa [Handler.checkDownstream] using ht
    exact .checkDownstream
  | syncFromDownstream =>
    obtain rfl := Option.some.inj hj
    obtain rfl : t = .commit := by simpa [Handler.syncFromDownstream] using ht
    exact .syncFromDownstream
  | coprBuild =>
    obtain rfl := Option.some.inj hj
    obtain rfl | rfl : t = .pullRequest ∨ t = .release := by simpa [Handler.coprBuild] using ht
    · exact .buildPullRequest
    · exact .buildRelease

end Registry

def Dispatcher.standard : Dispatcher X :=
  ⟨{}, ⟨Registry.builtin?⟩⟩

-- A text that an event has is not empty, so that a name or a ref is made of it without fail.
section Names

variable {c : Context}

lemma nonempty?_of_text? {e : Event} {path : List String} {s : String}
    (h : e.text? path = some s) : nonempty? s = some s :=
  nonempty?_eq_some_iff.mpr ⟨rfl, (Event.text?_eq_some_iff.mp h).2⟩

lemma Context.requireText_bind_congr {path : List String} {f g : String → Job X α}
    (h : ∀ s, nonempty? s = some s → f s = g s) :
    c.requireText path >>= f = c.requireText path >>= g := by
  rw [requireText]
  cases hs : c.event.text? path with
  | none => rfl
  | some s => exact h s (nonempty?_of_text? hs)

namespace Handler

lemma gitRef_eq_pure {value : String} (h : nonempty? value = some value) (path : List String) :
    (gitRef value path : Job X String) = pure value := by
  rw [gitRef, h]

lemma baseProject_eq_pure {owner repo : String} (ho : nonempty? owner = some owner)
    (hr : nonempty? repo = some repo) (side : Side) :
    (baseProject owner repo side : Job X Project) = pure ⟨owner, repo, side⟩ := by
  have hp : Project.of? owner repo side = some ⟨owner, repo, side⟩ := by
    rw [Project.of?, ho, hr]
    rfl
  rw [baseProject, hp]

lemma buildRelease_eq (c : Context) : (buildRelease c : Job X Unit) = (do
    let cloneUrl ← c.requireText ["repository", "clone_url"]
    let tag ← c.requireText ["release", "tag_name"]
    let _ ← Job.reach .upstream
    let build ← submit c tag cloneUrl
    let sha ← Job.askForge .upstream (.taggedCommit c.project tag)
    Job.askForge .upstream (.comment c.project (.commit sha) (releaseComment build))) := by
  refine bind_congr fun cloneUrl => Context.requireText_bind_congr fun tag ht => ?_
  refine bind_congr fun _ => ?_
  rw [gitRef_eq_pure ht, pure_bind]

lemma buildPullRequest_eq (c : Context) : (buildPullRequest c : Job X Unit) = (do
    let cloneUrl ← c.requireText ["pull_request", "head", "repo", "clone_url"]
    let headSha ← c.requireText ["pull_request", "head", "sha"]
    let number ← c.requireNatural ["number"]
    let owner ← c.requireText ["pull_request", "base", "repo", "owner", "login"]
    let repo ← c.requireText ["pull_request", "base", "repo", "name"]
    let base : Project := ⟨owner, repo, ← Job.reach .upstream⟩
    let build ← submit c headSha cloneUrl
    Job.log (.info .coprBuild "Reporting copr build on pull request"
      [("base_project", base.text), ("pr", toString number), ("build_id", toString build.buildId)])
    Job.askForge .upstream
      (.comment base (.pullRequest number) (pullRequestComment build))) := by
  refine bind_congr fun cloneUrl => Context.requireText_bind_congr fun headSha hs => ?_
  refine bind_congr fun number => Context.requireText_bind_congr fun owner ho => ?_
  refine Context.requireText_bind_congr fun repo hr => bind_congr fun kind => ?_
  rw [baseProject_eq_pure ho hr, pure_bind, gitRef_eq_pure hs, pure_bind]

end Handler

end Names

section EachStep

open Job

variable {P : Step X → Prop} {c : Context}

lemma Context.eachStep_requireText (c : Context) (path : List String) :
    EachStep P (c.requireText path) := by
  rw [requireText]
  cases c.event.text? path with
  | none => exact eachStep_fail _
  | some s => exact eachStep_pure _

lemma Context.eachStep_requireNatural (c : Context) (path : List String) :
    EachStep P (c.requireNatural path) := by
  rw [requireNatural]
  cases c.event.natural? path with
  | none => exact eachStep_fail _
  | some n => exact eachStep_pure _

lemma Context.eachStep_requireText_bind {path : List String} {f : String → Job X α}
    (hf : ∀ s, c.event.text? path = some s → EachStep P (f s)) :
    EachStep P (c.requireText path >>= f) := by
  rw [requireText]
  cases hs : c.event.text? path with
  | none => exact eachStep_fail _
  | some s => exact hf s hs

lemma Context.eachStep_requireNatural_bind {path : List String} {f : UInt64 → Job X α}
    (hf : ∀ n, c.event.natural? path = some n → EachStep P (f n)) :
    EachStep P (c.requireNatural path >>= f) := by
  rw [requireNatural]
  cases hn : c.event.natural? path with
  | none => exact eachStep_fail _
  | some n => exact hf n hn

namespace Handler

lemma eachStep_sourceOf (url : Option String) : EachStep P (sourceOf url) := by
  cases url with
  | none => exact eachStep_fail _
  | some url =>
    rw [sourceOf]
    cases Address.ownerAndRepo? url with
    | none => exact eachStep_fail _
    | some source => exact eachStep_pure _

end Handler

end EachStep

inductive Context.Takes (c : Context) : JobType → Step X → Prop
  | logged {j : JobType} {rec : Log.Record} : rec.level = .info → rec.part ≠ .dispatch →
      Takes c j (.logged rec)
  | proposed {version : String} (answer : Except PackagingError Unit) (log : List Log.Record) :
      c.event.text? ["release", "tag_name"] = some version →
      Takes c .proposeDownstream (.askedPackaging
        (.proposeRelease c.package c.project c.job.distGitBranch version) answer log)
  | checked {number : UInt64} (answer : Except PackagingError Unit) (log : List Log.Record) :
      c.event.natural? ["number"] = some number →
      Takes c .checkDownstream (.askedPackaging
        (.checkPullRequest c.package c.project number c.job.distGitBranch) answer log)
  | located (answer : Except PackagingError (Option String)) (log : List Log.Record) :
      Takes c .syncFromDownstream
        (.askedPackaging (.sourceUrl c.package c.project) answer log)
  | carried {branch : String} (url : Option String) (upstream : Project)
      (answer : Except PackagingError Unit) (log : List Log.Record) :
      c.event.text? ["msg", "commit", "branch"] = some branch →
      Takes c .syncFromDownstream (.askedPackaging
        (.carryBack { c.package with upstreamProjectUrl := url } upstream branch
          c.config.upstreamBranch) answer log)
  | reached {j : JobType} (outcome : Except ForgeError Side) (log : List Log.Record) :
      j = .syncFromDownstream ∨ j = .coprBuild → Takes c j (.attempted .upstream outcome log)
  | builtRelease {tag : String} (cloneUrl : String) (chroots : List String)
      (answer : Except PackagingError CoprBuild) (log : List Log.Record) :
      c.trigger = .release → c.event.text? ["release", "tag_name"] = some tag →
      Takes c .coprBuild (.askedPackaging
        (.build c.package c.project (Handler.buildRequest c tag cloneUrl chroots)) answer log)
  | tagged {tag : String} (answer : Except ForgeError String) (log : List Log.Record) :
      c.trigger = .release → c.event.text? ["release", "tag_name"] = some tag →
      Takes c .coprBuild (.askedForge .upstream (.taggedCommit c.project tag) answer log)
  | reportedRelease (sha body : String) (answer : Except ForgeError Unit) (log : List Log.Record) :
      c.trigger = .release →
      Takes c .coprBuild (.askedForge .upstream (.comment c.project (.commit sha) body) answer log)
  | builtPullRequest (sha cloneUrl : String) (chroots : List String)
      (answer : Except PackagingError CoprBuild) (log : List Log.Record) :
      c.trigger = .pullRequest →
      Takes c .coprBuild (.askedPackaging
        (.build c.package c.project (Handler.buildRequest c sha cloneUrl chroots)) answer log)
  | reportedPullRequest {number : UInt64} (base : Project) (body : String)
      (answer : Except ForgeError Unit) (log : List Log.Record) :
      c.trigger = .pullRequest → c.event.natural? ["number"] = some number →
      Takes c .coprBuild
        (.askedForge .upstream (.comment base (.pullRequest number) body) answer log)

lemma Context.Takes.of_logged {c : Context} {j : JobType} {rec : Log.Record}
    (h : c.Takes j (.logged rec : Step X)) : rec.level = .info ∧ rec.part ≠ .dispatch := by
  cases h with
  | logged hl hp => exact ⟨hl, hp⟩

section Takes

open Job Handler

variable {c : Context}

lemma takes_info {j : JobType} {part : Log.Part} (message : String)
    (fields : List (String × String)) (hp : part ≠ .dispatch) :
    EachStep (c.Takes j) (log (.info part message fields) : Job X Unit) :=
  eachStep_log (.logged rfl hp)

lemma takes_proposeDownstream (c : Context) :
    EachStep (c.Takes .proposeDownstream) ((proposeDownstream : Handler X).run c) := by
  refine c.eachStep_requireText_bind fun version hv => ?_
  refine (takes_info _ _ (by decide)).bind fun _ => eachStep_askPackaging fun answer log => ?_
  exact .proposed answer log hv

lemma takes_checkDownstream (c : Context) :
    EachStep (c.Takes .checkDownstream) ((checkDownstream : Handler X).run c) := by
  refine c.eachStep_requireNatural_bind fun number hn => ?_
  refine (takes_info _ _ (by decide)).bind fun _ => eachStep_askPackaging fun answer log => ?_
  exact .checked answer log hn

lemma takes_syncFromDownstream (c : Context) :
    EachStep (c.Takes .syncFromDownstream) ((syncFromDownstream : Handler X).run c) := by
  refine c.eachStep_requireText_bind fun branch hb => ?_
  refine (eachStep_askPackaging .located).bind fun url => (eachStep_sourceOf url).bind ?_
  rintro ⟨owner, repo⟩
  refine (eachStep_reach fun outcome log => .reached outcome log (.inl rfl)).bind fun kind => ?_
  refine (takes_info _ _ (by decide)).bind fun _ => eachStep_askPackaging fun answer log => ?_
  exact .carried url ⟨owner, repo, kind⟩ answer log hb

lemma takes_submit (committish cloneUrl : String)
    (hb : ∀ chroots answer log, c.Takes .coprBuild (.askedPackaging
      (.build c.package c.project (buildRequest c committish cloneUrl chroots)) answer log :
        Step X)) :
    EachStep (c.Takes .coprBuild) (submit c committish cloneUrl : Job X CoprBuild) := by
  apply iteInduction (motive := EachStep (c.Takes .coprBuild))
  · intro _
    exact eachStep_fail _
  · intro _
    refine (takes_info _ _ (by decide)).bind fun _ => ?_
    refine (eachStep_askPackaging (hb _)).bind fun build => ?_
    exact (takes_info _ _ (by decide)).bind fun _ => eachStep_pure _

lemma takes_buildRelease (ht : c.trigger = .release) :
    EachStep (c.Takes .coprBuild) (buildRelease c : Job X Unit) := by
  have hr : ∀ outcome log, c.Takes .coprBuild (.attempted .upstream outcome log : Step X) :=
    fun outcome log => .reached outcome log (.inr rfl)
  rw [buildRelease_eq]
  refine c.eachStep_requireText_bind fun cloneUrl _ => ?_
  refine c.eachStep_requireText_bind fun tag htag => ?_
  refine (eachStep_reach hr).bind fun _ => EachStep.bind ?_ fun build => ?_
  · exact takes_submit tag cloneUrl fun chroots answer log =>
      .builtRelease cloneUrl chroots answer log ht htag
  refine (eachStep_askForge hr ?_).bind fun sha => eachStep_askForge hr ?_
  · exact fun answer log => .tagged answer log ht htag
  · exact fun answer log => .reportedRelease sha _ answer log ht

lemma takes_buildPullRequest (ht : c.trigger = .pullRequest) :
    EachStep (c.Takes .coprBuild) (buildPullRequest c : Job X Unit) := by
  have hr : ∀ outcome log, c.Takes .coprBuild (.attempted .upstream outcome log : Step X) :=
    fun outcome log => .reached outcome log (.inr rfl)
  rw [buildPullRequest_eq]
  refine c.eachStep_requireText_bind fun cloneUrl _ => ?_
  refine c.eachStep_requireText_bind fun sha _ => ?_
  refine c.eachStep_requireNatural_bind fun number hn => ?_
  refine (c.eachStep_requireText _).bind fun owner => (c.eachStep_requireText _).bind fun repo => ?_
  refine (eachStep_reach hr).bind fun kind => EachStep.bind ?_ fun build => ?_
  · exact takes_submit sha cloneUrl fun chroots answer log =>
      .builtPullRequest sha cloneUrl chroots answer log ht
  refine (takes_info _ _ (by decide)).bind fun _ => eachStep_askForge hr fun answer log => ?_
  exact .reportedPullRequest ⟨owner, repo, kind⟩ _ answer log ht hn

lemma Builtin.takes {j : JobType} {h : Handler X} (hb : Builtin c.trigger j h) :
    EachStep (c.Takes j) (h.run c) := by
  generalize ht : c.trigger = t at hb
  cases hb with
  | proposeDownstream => exact takes_proposeDownstream c
  | buildRelease =>
    simp only [coprBuild, ht]
    exact takes_buildRelease ht
  | checkDownstream => exact takes_checkDownstream c
  | buildPullRequest =>
    simp only [coprBuild, ht]
    exact takes_buildPullRequest ht
  | syncFromDownstream => exact takes_syncFromDownstream c

end Takes

end JobDispatch
