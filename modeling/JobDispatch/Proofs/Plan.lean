import JobDispatch.Proofs.Run

namespace JobDispatch

open Log.Record

variable {X : Extras} {m : Type → Type}

inductive Fate (X : Extras)
  | run (job : JobConfig) (h : Handler X)
  | skip (warning : Log.Record)

def Fate.job? : Fate X → Option JobConfig
  | .run job _ => some job
  | .skip _ => none

namespace Registry

def serves (r : Registry X) (t : Trigger) (job : JobConfig) : Bool :=
  job.trigger = t ∧ ∃ h ∈ r.handler? job.job, t ∈ h.triggers

def fate (r : Registry X) (t : Trigger) (job : JobConfig) : Fate X :=
  let fields := [("job", job.job.name), ("trigger", t.name)]
  match r.handler? job.job with
  | none => .skip (warn .dispatch "There is no handler for job" fields)
  | some h =>
    if t ∈ h.triggers then .run job h
    else .skip (warn .dispatch "Handler does not support this trigger" fields)

def plan (r : Registry X) (t : Trigger) (jobs : List JobConfig) : List (Fate X) :=
  (jobs.filter fun job => job.trigger = t).map (r.fate t)

lemma job?_fate (r : Registry X) (t : Trigger) (job : JobConfig) :
    (r.fate t job).job? =
      if ∃ h ∈ r.handler? job.job, t ∈ h.triggers then some job else none := by
  cases hj : r.handler? job.job with
  | none => simp [fate, hj, Fate.job?]
  | some h => by_cases ht : t ∈ h.triggers <;> simp [fate, hj, ht, Fate.job?]

lemma fate_eq_run_iff {r : Registry X} {t : Trigger} {job job' : JobConfig} {h : Handler X} :
    r.fate t job = .run job' h ↔ job' = job ∧ r.handler? job.job = some h ∧ t ∈ h.triggers := by
  cases hj : r.handler? job.job with
  | none => simp [fate, hj]
  | some h' =>
    by_cases ht : t ∈ h'.triggers
    · simp only [fate, hj, ht, if_true, Fate.run.injEq, Option.some.injEq]
      constructor
      · rintro ⟨rfl, rfl⟩
        exact ⟨rfl, rfl, ht⟩
      · rintro ⟨rfl, rfl, -⟩
        exact ⟨rfl, rfl⟩
    · simp only [fate, hj, ht, if_false, reduceCtorEq, Option.some.injEq, false_iff]
      rintro ⟨-, rfl, ht'⟩
      exact ht ht'

lemma fate_eq_skip {r : Registry X} {t : Trigger} {job : JobConfig} {w : Log.Record}
    (hw : r.fate t job = .skip w) : w.level = .warn ∧ w.part = .dispatch := by
  cases hj : r.handler? job.job with
  | none =>
    simp only [fate, hj, Fate.skip.injEq] at hw
    rw [← hw]
    exact ⟨rfl, rfl⟩
  | some h =>
    by_cases ht : t ∈ h.triggers
    · simp [fate, hj, ht] at hw
    · simp only [fate, hj, ht, if_false, Fate.skip.injEq] at hw
      rw [← hw]
      exact ⟨rfl, rfl⟩

lemma mem_plan_run_iff {r : Registry X} {t : Trigger} {jobs : List JobConfig} {job : JobConfig}
    {h : Handler X} :
    .run job h ∈ r.plan t jobs ↔
      job ∈ jobs ∧ job.trigger = t ∧ r.handler? job.job = some h ∧ t ∈ h.triggers := by
  simp only [plan, List.mem_map, List.mem_filter, decide_eq_true_eq, fate_eq_run_iff]
  constructor
  · rintro ⟨_, ⟨hm, ht⟩, rfl, hh⟩
    exact ⟨hm, ht, hh⟩
  · rintro ⟨hm, ht, hh⟩
    exact ⟨job, ⟨hm, ht⟩, rfl, hh⟩

lemma jobs_plan (r : Registry X) (t : Trigger) (jobs : List JobConfig) :
    (r.plan t jobs).filterMap Fate.job? = jobs.filter (r.serves t) := by
  have hj : Fate.job? ∘ r.fate t =
      Option.guard fun job : JobConfig => decide (∃ h ∈ r.handler? job.job, t ∈ h.triggers) := by
    funext job
    rw [Function.comp_apply, job?_fate]
    simp [Option.guard]
  rw [plan, List.filterMap_map, hj, List.filterMap_eq_filter, List.filter_filter]
  apply List.filter_congr
  intro job _
  simp only [serves, Bool.decide_and, Bool.and_comm]

end Registry

namespace Dispatcher

def running (c : Classified) (job : JobConfig) : Log.Record :=
  info .dispatch "Running job" [("job", job.job.name), ("project", c.project.text)]

/-- A skipped declaration leaves a warning and no more, and a failure ends the plan. -/
def carryOut [Monad m] (d : Dispatcher X) (c : Classified) (e : Event) :
    List (Fate X) → Collaborators X m → m (Outcome X m (Except JobError Unit))
  | [], k => pure ⟨.ok (), k, []⟩
  | .skip warning :: rest, k => do
    let o ← d.carryOut c e rest k
    return o.after [.logged warning]
  | .run job h :: rest, k => do
    let context : Context :=
      { config := d.config, package := c.package, event := e, project := c.project, job := job,
        trigger := c.trigger }
    let o ← (h.run context).run.run k
    match o.value with
    | .error err => return ⟨.error err, o.collaborators, .logged (running c job) :: o.transcript⟩
    | .ok () => do
      let o' ← d.carryOut c e rest o.collaborators
      return o'.after (.logged (running c job) :: o.transcript)

lemma runJob_eq (d : Dispatcher X) (c : Classified) (e : Event) (job : JobConfig) :
    d.runJob c e job =
      match d.registry.fate c.trigger job with
      | .skip warning => Job.log warning
      | .run job h => Job.log (running c job) >>= fun _ =>
        h.run ⟨d.config, c.package, e, c.project, job, c.trigger⟩ := by
  cases hj : d.registry.handler? job.job with
  | none => simp [runJob, Registry.fate, hj]
  | some h =>
    by_cases ht : c.trigger ∈ h.triggers <;>
      simp [runJob, running, context, Registry.fate, hj, ht]

variable [Monad m] [LawfulMonad m]

lemma runAll_run (d : Dispatcher X) (c : Classified) (e : Event) (jobs : List JobConfig)
    (k : Collaborators X m) :
    (d.runAll c e jobs).run.run k = d.carryOut c e (jobs.map (d.registry.fate c.trigger)) k := by
  induction jobs generalizing k with
  | nil => simp [runAll, carryOut, Program.run]
  | cons job jobs ih =>
    rw [runAll, Job.run_bind, List.map_cons, runJob_eq]
    cases d.registry.fate c.trigger job with
    | skip warning => simp [carryOut, Job.run_log, Outcome.follow, ih]
    | run job h =>
      simp only [carryOut, Job.run_bind, Job.run_log, pure_bind, Outcome.follow,
        LawfulMonad.bind_assoc]
      apply bind_congr
      intro o
      cases ho : o.value with
      | error err => simp [ho, Outcome.after]
      | ok a => simp [ho, ih]

theorem runJobs_run (d : Dispatcher X) (c : Classified) (e : Event) (k : Collaborators X m) :
    let plan := d.registry.plan c.trigger c.package.jobs
    (d.runJobs c e).run.run k = d.carryOut c e plan k ∧
      plan.filterMap Fate.job? = c.package.jobs.filter (d.registry.serves c.trigger) ∧
      (∀ job h, .run job h ∈ plan → d.registry.handler? job.job = some h) ∧
      ∀ w, .skip w ∈ plan → w.level = .warn := by
  refine ⟨d.runAll_run c e _ k, d.registry.jobs_plan _ _, ?_, ?_⟩
  · intro job h hm
    obtain ⟨-, -, hh, -⟩ := Registry.mem_plan_run_iff.mp hm
    exact hh
  · intro w hm
    obtain ⟨job, -, hw⟩ := List.mem_map.mp hm
    exact (Registry.fate_eq_skip hw).1

def builder : Dispatcher Extras.none :=
  ⟨{}, .insert .empty Handler.coprBuild⟩

def declaredBuilds : PackageConfig where
  jobs := [⟨.build, .release, []⟩, ⟨.coprBuild, .pullRequest, []⟩, ⟨.coprBuild, .release, []⟩]

theorem runJobs_run_builder :
    let c : Classified := ⟨.release, declaredBuilds, ⟨"acme", "widget", .upstream⟩⟩
    let k : Collaborators Extras.none Id := .granting declaredBuilds
    LawfulMonad Id ∧
      (builder.runJobs c ⟨.null⟩).run.run k =
        builder.carryOut c ⟨.null⟩ (builder.registry.plan .release declaredBuilds.jobs) k ∧
      (builder.registry.plan .release declaredBuilds.jobs).filterMap Fate.job? =
        [⟨.coprBuild, .release, []⟩] := by
  intro c k
  obtain ⟨hrun, hjobs, -, -⟩ := runJobs_run builder c ⟨.null⟩ k
  exact ⟨inferInstance, hrun, hjobs.trans rfl⟩

end Dispatcher

end JobDispatch
