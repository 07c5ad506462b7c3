import JobDispatch.Proofs.Builtins

/-! Fields that a handler requires and that an event does not have. What an event is recognized by
covers what the handlers require, except for some fields that only a build requires. -/

namespace JobDispatch

open Log.Record

variable {X : Extras} {α β σ : Type}

def Event.FirstMissing (e : Event) (paths : List (List String)) (path : List String) : Prop :=
  ∃ before after, paths = before ++ path :: after ∧
    (∀ p ∈ before, ∃ s, e.HasText p s) ∧ ¬ ∃ s, e.HasText path s

namespace Event.FirstMissing

variable {e : Event} {path first : List String} {paths : List (List String)} {s : String}

lemma head (h : ¬ ∃ s, e.HasText first s) : e.FirstMissing (first :: paths) first :=
  ⟨[], paths, rfl, by simp, h⟩

lemma cons (hs : e.HasText first s) (h : e.FirstMissing paths path) :
    e.FirstMissing (first :: paths) path := by
  obtain ⟨before, after, rfl, hb, hp⟩ := h
  refine ⟨first :: before, after, rfl, ?_, hp⟩
  rintro p (_ | ⟨_, hm⟩)
  · exact ⟨s, hs⟩
  · exact hb p hm

lemma mem (h : e.FirstMissing paths path) : path ∈ paths := by
  obtain ⟨before, after, rfl, -, -⟩ := h
  simp

end Event.FirstMissing

namespace Context

variable {c : Context} {path : List String}

lemma requireText_of_hasText {s : String} (h : c.event.HasText path s) :
    (c.requireText path : Job X String) = pure s := by
  simp [requireText, Event.text?_eq_some_iff.mpr h]

lemma requireText_of_missing (h : ¬ ∃ s, c.event.HasText path s) :
    (c.requireText path : Job X String) = Job.fail (.missingEventField path) := by
  have ht : c.event.text? path = none := by
    rw [Option.eq_none_iff_forall_not_mem]
    intro s hs
    exact h ⟨s, Event.text?_eq_some_iff.mp hs⟩
  simp [requireText, ht]

lemma requireNatural_of_natural {n : UInt64}
    (h : c.event.payload.at? path = some (.number (.natural n))) :
    (c.requireNatural path : Job X UInt64) = pure n := by
  simp [requireNatural, Event.natural?_eq_some_iff.mpr h]

end Context

namespace Job

def Satisfied (j : Job X α) : Prop :=
  ∀ ⦃κ ss path κ'⦄, ¬ Program.Path κ j.run ss (.error (.missingEventField path)) κ'

lemma fail_bind (err : JobError) (f : α → Job X β) : (fail err : Job X α) >>= f = fail err := rfl

lemma satisfied_pure (a : α) : Satisfied (pure a : Job X α) := by
  intro κ ss path κ' h
  obtain ⟨-, hx, -⟩ := path_pure.mp h
  simp at hx

lemma satisfied_configuration (reason : String) :
    Satisfied (fail (.configuration reason) : Job X α) := by
  intro κ ss path κ' h
  simp [path_fail] at h

lemma Satisfied.bind {j : Job X α} {f : α → Job X β} (hj : Satisfied j)
    (hf : ∀ a, Satisfied (f a)) : Satisfied (j >>= f) := by
  intro κ ss path κ' h
  rcases path_bind.mp h with ⟨err, he, h⟩ | ⟨a, κ₁, ss₁, ss₂, -, -, h⟩
  · obtain rfl := Except.error.inj he
    exact hj h
  · exact hf a h

lemma satisfied_log (rec : Log.Record) : Satisfied (log rec : Job X Unit) := by
  intro κ ss path κ' h
  simp [path_log] at h

lemma satisfied_reach (side : Side) : Satisfied (reach side : Job X Side) := by
  intro κ ss path κ' h
  obtain ⟨x, -, hx⟩ := path_reach.mp h
  simp [error_eq_mapError] at hx

lemma satisfied_askForge (side : Side) (call : ForgeCall) :
    Satisfied (askForge side call : Job X call.Result) := by
  intro κ ss path κ' h
  rcases path_askForge.mp h with ⟨err, -, hx⟩ | ⟨kind, rs, x, log, -, -, hx⟩
  · simp at hx
  · simp [error_eq_mapError] at hx

lemma satisfied_askPackaging (call : PackagingCall) :
    Satisfied (askPackaging call : Job X call.Result) := by
  intro κ ss path κ' h
  obtain ⟨x, log, -, hx, -⟩ := path_askPackaging.mp h
  simp [error_eq_mapError] at hx

end Job

namespace Handler

open Job Event Context

variable {c : Context}

lemma satisfied_submit (c : Context) (committish cloneUrl : String) :
    Satisfied (submit c committish cloneUrl : Job X CoprBuild) := by
  apply iteInduction (motive := Satisfied)
  · intro _
    exact satisfied_configuration _
  · intro _
    refine (satisfied_log _).bind fun _ => (satisfied_askPackaging _).bind fun build => ?_
    exact (satisfied_log _).bind fun _ => satisfied_pure _

lemma satisfied_sourceOf (url : Option String) :
    Satisfied (sourceOf url : Job X (String × String)) := by
  cases url with
  | none => exact satisfied_configuration _
  | some url =>
    rw [sourceOf]
    cases Address.ownerAndRepo? url with
    | none => exact satisfied_configuration _
    | some source => exact satisfied_pure _

lemma satisfied_proposeDownstream {tag : String}
    (ht : c.event.HasText ["release", "tag_name"] tag) :
    Satisfied ((proposeDownstream : Handler X).run c) := by
  simp only [proposeDownstream, requireText_of_hasText ht]
  exact (satisfied_log _).bind fun _ => satisfied_askPackaging _

lemma satisfied_checkDownstream {n : UInt64}
    (hn : c.event.payload.at? ["number"] = some (.number (.natural n))) :
    Satisfied ((checkDownstream : Handler X).run c) := by
  simp only [checkDownstream, requireNatural_of_natural hn]
  exact (satisfied_log _).bind fun _ => satisfied_askPackaging _

lemma satisfied_syncFromDownstream {branch : String}
    (hb : c.event.HasText ["msg", "commit", "branch"] branch) :
    Satisfied ((syncFromDownstream : Handler X).run c) := by
  simp only [syncFromDownstream, requireText_of_hasText hb, pure_bind]
  refine (satisfied_askPackaging _).bind fun url => (satisfied_sourceOf _).bind fun source => ?_
  refine (satisfied_reach _).bind fun kind => (satisfied_log _).bind fun _ => ?_
  exact satisfied_askPackaging _

lemma buildRelease_eq_fail_or_satisfied {tag : String}
    (ht : c.event.HasText ["release", "tag_name"] tag) :
    ((¬ ∃ s, c.event.HasText ["repository", "clone_url"] s) ∧
        (buildRelease c : Job X Unit) = fail (.missingEventField ["repository", "clone_url"])) ∨
      Satisfied (buildRelease c : Job X Unit) := by
  by_cases hu : ∃ s, c.event.HasText ["repository", "clone_url"] s
  · obtain ⟨url, hu⟩ := hu
    right
    simp only [buildRelease_eq, requireText_of_hasText hu, requireText_of_hasText ht, pure_bind]
    refine (satisfied_reach _).bind fun _ => (satisfied_submit ..).bind fun build => ?_
    exact (satisfied_askForge ..).bind fun sha => satisfied_askForge ..
  · left
    exact ⟨hu, by simp only [buildRelease_eq, requireText_of_missing hu, fail_bind]⟩

def pullRequestFields : List (List String) :=
  [["pull_request", "head", "repo", "clone_url"],
    ["pull_request", "head", "sha"],
    ["pull_request", "base", "repo", "owner", "login"],
    ["pull_request", "base", "repo", "name"]]

lemma buildPullRequest_eq_fail_or_satisfied {n : UInt64}
    (hn : c.event.payload.at? ["number"] = some (.number (.natural n))) :
    (∃ path, c.event.FirstMissing pullRequestFields path ∧
        (buildPullRequest c : Job X Unit) = fail (.missingEventField path)) ∨
      Satisfied (buildPullRequest c : Job X Unit) := by
  simp only [buildPullRequest_eq, requireNatural_of_natural hn, pure_bind]
  by_cases hu : ∃ s, c.event.HasText ["pull_request", "head", "repo", "clone_url"] s
  swap
  · rw [requireText_of_missing hu]
    exact .inl ⟨_, .head hu, fail_bind ..⟩
  obtain ⟨url, hu⟩ := hu
  rw [requireText_of_hasText hu, pure_bind]
  by_cases hs : ∃ s, c.event.HasText ["pull_request", "head", "sha"] s
  swap
  · rw [requireText_of_missing hs]
    exact .inl ⟨_, .cons hu (.head hs), fail_bind ..⟩
  obtain ⟨sha, hs⟩ := hs
  rw [requireText_of_hasText hs, pure_bind]
  by_cases ho : ∃ s, c.event.HasText ["pull_request", "base", "repo", "owner", "login"] s
  swap
  · rw [requireText_of_missing ho]
    exact .inl ⟨_, .cons hu (.cons hs (.head ho)), fail_bind ..⟩
  obtain ⟨owner, ho⟩ := ho
  rw [requireText_of_hasText ho, pure_bind]
  by_cases hr : ∃ s, c.event.HasText ["pull_request", "base", "repo", "name"] s
  swap
  · rw [requireText_of_missing hr]
    exact .inl ⟨_, .cons hu (.cons hs (.cons ho (.head hr))), fail_bind ..⟩
  obtain ⟨repo, hr⟩ := hr
  rw [requireText_of_hasText hr, pure_bind]
  refine .inr ((satisfied_reach _).bind fun kind => (satisfied_submit ..).bind fun build => ?_)
  exact (satisfied_log _).bind fun _ => satisfied_askForge ..

end Handler

open Job

variable {c : Context}

lemma Builtin.path_missing {j : JobType} {h : Handler X} {r : Recognized} {κ κ' : Contacts}
    {ss : List (Step X)} {path : List String} (hb : Builtin c.trigger j h)
    (hr : c.event.Describes r) (ht : r.trigger = c.trigger)
    (hp : Program.Path κ (h.run c).run ss (.error (.missingEventField path)) κ') :
    j = .coprBuild ∧ ss = [] ∧
      (Handler.coprBuild.run c : Job X Unit) = fail (.missingEventField path) ∧
      (c.trigger = .release ∧ path = ["repository", "clone_url"] ∧
          (¬ ∃ s, c.event.HasText path s) ∨
        c.trigger = .pullRequest ∧ c.event.FirstMissing Handler.pullRequestFields path) := by
  -- The event is of the kind that the trigger names. What it was recognized by has the fields.
  generalize hc : c.trigger = t at hb ht
  cases hb with
  | proposeDownstream =>
    cases hr with
    | release hr _ => exact (Handler.satisfied_proposeDownstream hr.tag hp).elim
    | _ => simp [Recognized.trigger] at ht
  | checkDownstream =>
    cases hr with
    | pullRequest hr _ => exact (Handler.satisfied_checkDownstream hr.number hp).elim
    | _ => simp [Recognized.trigger] at ht
  | syncFromDownstream =>
    cases hr with
    | distGitCommit hr _ _ => exact (Handler.satisfied_syncFromDownstream hr.branch hp).elim
    | _ => simp [Recognized.trigger] at ht
  | buildRelease =>
    have hrun : Handler.coprBuild.run c = (Handler.buildRelease c : Job X Unit) := by
      simp only [Handler.coprBuild, hc]
    rw [hrun] at hp ⊢
    cases hr with
    | release hr _ =>
      rcases Handler.buildRelease_eq_fail_or_satisfied (X := X) hr.tag with ⟨hu, hf⟩ | hs
      · rw [hf] at hp ⊢
        obtain ⟨rfl, hx, -⟩ := path_fail.mp hp
        obtain rfl : path = _ := by simpa using hx
        exact ⟨rfl, rfl, rfl, .inl ⟨rfl, rfl, hu⟩⟩
      · exact (hs hp).elim
    | _ => simp [Recognized.trigger] at ht
  | buildPullRequest =>
    have hrun : Handler.coprBuild.run c = (Handler.buildPullRequest c : Job X Unit) := by
      simp only [Handler.coprBuild, hc]
    rw [hrun] at hp ⊢
    cases hr with
    | pullRequest hr _ =>
      rcases Handler.buildPullRequest_eq_fail_or_satisfied (X := X) hr.number with
        ⟨first, hm, hf⟩ | hs
      · rw [hf] at hp ⊢
        obtain ⟨rfl, hx, -⟩ := path_fail.mp hp
        obtain rfl : path = first := by simpa using hx
        exact ⟨rfl, rfl, rfl, .inr ⟨rfl, hm⟩⟩
      · exact (hs hp).elim
    | _ => simp [Recognized.trigger] at ht

lemma eachStep_not_commitBuild {d : Dispatcher X} (hd : Registry.standard.value = .ok d.registry)
    (e : Event) (topic : Option String) (fields : List (String × String)) :
    EachStep (fun s => s ≠
      .logged (warn .coprBuild "Copr builds are not run for commit triggers" fields))
      (d.dispatch e topic) := by
  refine Dispatcher.eachStep_dispatch ?_ ?_ ?_ ?_ topic
  · rintro rec hp - ⟨⟩
    simp [warn] at hp
  · intro _ _ _ h
    cases h
  · intro _ _ _ _ h
    cases h
  · intro c job h hj ht
    have hb : Builtin c.trigger job.job h := Registry.standard_builtin hd hj ht
    refine (Builtin.takes (c := d.context c e job) hb).imp ?_
    rintro _ hs rfl
    have hl := hs.of_logged.1
    simp [warn] at hl

namespace Dispatcher

theorem dispatch_missingEventField {d : Dispatcher X}
    (hd : Registry.standard.value = .ok d.registry) (e : Event) (topic : Option String)
    (k : Collaborators X (StateM σ)) (s : σ) :
    let o := ((d.dispatch e topic).run.run k s).1
    let steps := (d.dispatch e topic).run.steps k s
    o.transcript = steps.flatMap Step.entries ∧
      (∀ path, o.value = .error (.missingEventField path) →
        ∃ r kind package job log before,
          e.recognized.value = some r ∧
          .askedForge r.side (r.configCall kind) (.ok package) log ∈ before ∧
          job ∈ package.jobs ∧ job.trigger = r.trigger ∧ job.job = .coprBuild ∧
          steps = before ++ [.logged (running (r.classified kind package) job)] ∧
          (Handler.coprBuild.run (d.context (r.classified kind package) e job) : Job X Unit) =
            Job.fail (.missingEventField path) ∧
          (r.trigger = .release ∧ path = ["repository", "clone_url"] ∧
              (¬ ∃ s, e.HasText path s) ∨
            r.trigger = .pullRequest ∧ e.FirstMissing Handler.pullRequestFields path) ∧
          path ∉ [["release", "tag_name"], ["number"], ["msg", "commit", "branch"],
            ["pull_request", "base", "repo"]]) ∧
      ∀ fields,
        .logged (warn .coprBuild "Copr builds are not run for commit triggers" fields) ∉ steps := by
  intro o steps
  obtain ⟨hp, ht⟩ := (d.dispatch e topic).run.run_path k s
  refine ⟨ht, ?_, ?_⟩
  · intro path ho
    rw [ho] at hp
    generalize hs : (d.dispatch e topic).run.steps k s = ss at hp
    cases path_dispatch hp with
    | unclassified _ hc => cases hc
    | classified _ hc hplan =>
      cases hc with
      | @classified r rs kind package log notes κ₁ hv hr =>
        obtain ⟨before, job, h, κ₂, after, hm, rfl, hfail⟩ := hplan.error
        obtain ⟨hm, hjt, hj, ht⟩ := Registry.mem_plan_run_iff.mp hm
        rw [Recognized.classified, Recognized.located_jobs] at hm
        have hb : Builtin r.trigger job.job h := Registry.standard_builtin hd hj ht
        have hd : e.Describes r := (e.recognized_eq_some_iff r).mp hv
        obtain ⟨hj, rfl, hf, hpath⟩ :=
          Builtin.path_missing (c := d.context (r.classified kind package) e job) hb hd rfl hfail
        rw [← List.append_assoc] at hs
        refine ⟨r, kind, package, job, log, _, hv, ?_, hm, hjt, hj, hs, hf, hpath, ?_⟩
        · simp
        · rcases hpath with ⟨-, rfl, -⟩ | ⟨-, hpath⟩
          · simp
          · have hmem := hpath.mem
            simp only [Handler.pullRequestFields, List.mem_cons, List.not_mem_nil, or_false] at hmem
            rcases hmem with rfl | rfl | rfl | rfl <;> simp
  · intro fields hm
    exact eachStep_not_commitBuild hd e topic fields hp _ hm rfl

def openedWithoutSha : Event where
  payload := .object [
    ("action", .text "opened"),
    ("number", Json.ofNat 7),
    ("pull_request", .object [
      ("head", .object [
        ("ref", .text "topic"),
        ("repo", .object [
          ("clone_url", .text "https://forge.example/acme/widget.git"),
          ("name", .text "widget"),
          ("owner", .object [("login", .text "acme")])])])])]

def checkedAndBuilt : PackageConfig where
  jobs := [⟨.checkDownstream, .pullRequest, []⟩, ⟨.coprBuild, .pullRequest, []⟩]

theorem dispatch_openedWithoutSha :
    let k : Collaborators Extras.none (StateM Unit) := .granting checkedAndBuilt
    let o := ((standard.dispatch openedWithoutSha none).run.run k ()).1
    let path := ["pull_request", "head", "sha"]
    Registry.standard.value = .ok (standard : Dispatcher Extras.none).registry ∧
      o.value = .error (.missingEventField path) ∧
      openedWithoutSha.FirstMissing Handler.pullRequestFields path := by
  intro k o path
  have hd : Registry.standard.value = .ok (standard : Dispatcher Extras.none).registry :=
    Registry.standard_value
  have ho : o.value = .error (.missingEventField path) := by decide +kernel
  obtain ⟨-, hm, -⟩ := dispatch_missingEventField hd openedWithoutSha none k ()
  obtain ⟨_, _, _, _, _, _, -, -, -, -, -, -, -, ⟨-, hx, -⟩ | ⟨-, hf⟩, -⟩ := hm path ho
  · simp [path] at hx
  · exact ⟨hd, ho, hf⟩

end Dispatcher

end JobDispatch
