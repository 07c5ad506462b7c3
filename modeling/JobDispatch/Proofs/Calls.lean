import JobDispatch.Proofs.Builtins

namespace JobDispatch

variable {X : Extras} {α β σ : Type}

inductive CallKind
  | packageConfig (side : Side)
  | taggedCommit (side : Side)
  | comment (side : Side)
  | sourceUrl
  | carryBack
  | checkPullRequest
  | proposeRelease
  | build
  | act
  deriving DecidableEq

def ForgeCall.kindOn (side : Side) : ForgeCall → CallKind
  | .packageConfig .. => .packageConfig side
  | .taggedCommit .. => .taggedCommit side
  | .comment .. => .comment side

def PackagingCall.kind : PackagingCall → CallKind
  | .sourceUrl .. => .sourceUrl
  | .carryBack .. => .carryBack
  | .checkPullRequest .. => .checkPullRequest
  | .proposeRelease .. => .proposeRelease
  | .build .. => .build

structure Call where
  kind : CallKind
  succeeded : Bool
  deriving DecidableEq

def Step.call? : Step X → Option Call
  | .logged _ => none
  | .attempted .. => none
  | .askedForge side call answer _ => some ⟨call.kindOn side, answer.isOk⟩
  | .askedPackaging call answer _ => some ⟨call.kind, answer.isOk⟩
  | .acted .. => some ⟨.act, true⟩

def calls (ss : List (Step X)) : List Call :=
  ss.filterMap Step.call?

@[simp] lemma calls_append (ss ss' : List (Step X)) : calls (ss ++ ss') = calls ss ++ calls ss' :=
  List.filterMap_append ..

lemma calls_eq_nil_iff {ss : List (Step X)} : calls ss = [] ↔ ∀ s ∈ ss, s.call? = none :=
  List.filterMap_eq_nil_iff

@[simp] lemma calls_records (rs : List Log.Record) : calls (records rs : List (Step X)) = [] := by
  rw [calls_eq_nil_iff]
  intro s hs
  obtain ⟨r, -, rfl⟩ := List.mem_map.mp hs
  rfl

lemma Reaches.calls_eq_nil {κ κ' : Contacts} {side : Side} {ss : List (Step X)}
    {x : Except ForgeError Side} (h : Reaches κ side ss x κ') : calls ss = [] := by
  rw [calls_eq_nil_iff]
  intro s hs
  obtain ⟨outcome, log, rfl⟩ := h.attempted hs
  rfl

lemma Reaches.calls_records_append {κ κ' : Contacts} {side : Side} {ss : List (Step X)}
    {x : Except ForgeError Side} (h : Reaches κ side ss x κ') (rs : List Log.Record) :
    calls (records rs ++ ss) = [] := by
  rw [calls_append, calls_records, h.calls_eq_nil]
  rfl

def granted (ks : List CallKind) : List Call :=
  ks.map fun k => ⟨k, true⟩

@[simp] lemma granted_append (ks ks' : List CallKind) :
    granted (ks ++ ks') = granted ks ++ granted ks' :=
  List.map_append ..

inductive Broken (ks : List CallKind) : List Call → Prop
  | cut (before after : List CallKind) (k : CallKind) : ks = before ++ k :: after →
      Broken ks (granted before)
  | failed (before after : List CallKind) (k : CallKind) : ks = before ++ k :: after →
      Broken ks (granted before ++ [⟨k, false⟩])

namespace Broken

variable {ks ks' : List CallKind} {cs : List Call}

lemma append_right (h : Broken ks cs) : Broken (ks ++ ks') cs := by
  cases h with
  | cut before after k hk =>
    subst hk
    exact .cut before (after ++ ks') k (List.append_assoc ..)
  | failed before after k hk =>
    subst hk
    exact .failed before (after ++ ks') k (List.append_assoc ..)

lemma append_left (h : Broken ks cs) : Broken (ks' ++ ks) (granted ks' ++ cs) := by
  cases h with
  | cut before after k hk =>
    rw [hk, ← List.append_assoc, ← granted_append]
    exact .cut (ks' ++ before) after k rfl
  | failed before after k hk =>
    rw [hk, ← List.append_assoc, ← List.append_assoc, ← granted_append]
    exact .failed (ks' ++ before) after k rfl

lemma ne_granted (h : Broken ks cs) : cs ≠ granted (ks ++ ks') := by
  intro hc
  cases h with
  | cut before after k hk =>
    have hl := congrArg List.length hc
    simp [granted, hk] at hl
  | failed before after k hk =>
    have hm : (⟨k, false⟩ : Call) ∈ granted (ks ++ ks') := by
      rw [← hc]
      simp
    simp [granted] at hm

end Broken

namespace Job

def Emits (ks : List CallKind) (j : Job X α) : Prop :=
  ∀ ⦃κ ss r κ'⦄, Program.Path κ j.run ss r κ' →
    (∃ a, r = .ok a) ∧ calls ss = granted ks ∨ (∃ err, r = .error err) ∧ Broken ks (calls ss)

def Quiet (j : Job X α) : Prop :=
  EachStep (fun s => s.call? = none) j

variable {k : CallKind} {ks ks₁ ks₂ : List CallKind} {j : Job X α} {f : α → Job X β}

lemma emits_pure (a : α) : Emits [] (pure a : Job X α) := by
  intro κ ss r κ' h
  obtain ⟨rfl, rfl, -⟩ := path_pure.mp h
  exact .inl ⟨⟨a, rfl⟩, rfl⟩

lemma emits_fail (err : JobError) : Emits (k :: ks) (fail err : Job X α) := by
  intro κ ss r κ' h
  obtain ⟨rfl, rfl, -⟩ := path_fail.mp h
  exact .inr ⟨⟨err, rfl⟩, .cut [] ks k rfl⟩

lemma emits_log (rec : Log.Record) : Emits [] (log rec : Job X Unit) := by
  intro κ ss r κ' h
  obtain ⟨rfl, rfl, -⟩ := path_log.mp h
  exact .inl ⟨⟨(), rfl⟩, rfl⟩

lemma Emits.bind (hj : Emits ks₁ j) (hf : ∀ a, Emits ks₂ (f a)) : Emits (ks₁ ++ ks₂) (j >>= f) := by
  intro κ ss r κ' h
  rw [path_bind] at h
  rcases h with ⟨err, rfl, h⟩ | ⟨a, κ₁, ss₁, ss₂, rfl, h₁, h₂⟩
  · rcases hj h with ⟨⟨_, hx⟩, -⟩ | ⟨-, hb⟩
    · simp at hx
    · exact .inr ⟨⟨err, rfl⟩, hb.append_right⟩
  · rcases hj h₁ with ⟨-, hc⟩ | ⟨⟨_, hx⟩, -⟩
    · rw [calls_append, hc, granted_append]
      rcases hf a h₂ with ⟨hr, hc⟩ | ⟨hr, hb⟩
      · exact .inl ⟨hr, by rw [hc]⟩
      · exact .inr ⟨hr, hb.append_left⟩
    · simp at hx

lemma Quiet.bind (hj : Quiet j) (hf : ∀ a, Emits (k :: ks) (f a)) : Emits (k :: ks) (j >>= f) := by
  intro κ ss r κ' h
  rw [path_bind] at h
  rcases h with ⟨err, rfl, h⟩ | ⟨a, κ₁, ss₁, ss₂, rfl, h₁, h₂⟩
  · -- A failure without a call cuts what follows, and there is a call to cut.
    have hc : calls ss = granted [] := calls_eq_nil_iff.mpr (hj h)
    rw [hc]
    exact .inr ⟨⟨err, rfl⟩, .cut [] ks k rfl⟩
  · have hc : calls ss₁ = [] := calls_eq_nil_iff.mpr (hj h₁)
    rw [calls_append, hc]
    exact hf a h₂

lemma quiet_reach (side : Side) : Quiet (reach side : Job X Side) :=
  eachStep_reach fun _ _ => rfl

lemma emits_askForge {side : Side} {call : ForgeCall} (hk : call.kindOn side = k) :
    Emits [k] (askForge side call : Job X call.Result) := by
  subst hk
  intro κ ss r κ' h
  rcases path_askForge.mp h with ⟨err, hr, rfl⟩ | ⟨kind, rs, x, log, hr, rfl, rfl⟩
  · have hc : calls ss = granted [] := hr.calls_eq_nil
    rw [hc]
    exact .inr ⟨⟨_, rfl⟩, .cut [] [] _ rfl⟩
  · have hc : calls rs = [] := hr.calls_eq_nil
    rw [calls_append, hc]
    cases x with
    | ok a => exact .inl ⟨⟨a, rfl⟩, rfl⟩
    | error err => exact .inr ⟨⟨_, rfl⟩, .failed [] [] _ rfl⟩

lemma emits_askPackaging {call : PackagingCall} (hk : call.kind = k) :
    Emits [k] (askPackaging call : Job X call.Result) := by
  subst hk
  intro κ ss r κ' h
  obtain ⟨x, log, rfl, rfl, -⟩ := path_askPackaging.mp h
  cases x with
  | ok a => exact .inl ⟨⟨a, rfl⟩, rfl⟩
  | error err => exact .inr ⟨⟨_, rfl⟩, .failed [] [] _ rfl⟩

end Job

def segment : Trigger → JobType → List CallKind
  | .release, .proposeDownstream => [.proposeRelease]
  | .release, .coprBuild => [.build, .taggedCommit .upstream, .comment .upstream]
  | .pullRequest, .checkDownstream => [.checkPullRequest]
  | .pullRequest, .coprBuild => [.build, .comment .upstream]
  | .commit, .syncFromDownstream => [.sourceUrl, .carryBack]
  | _, _ => []

namespace Handler

open Job

lemma quiet_requireText (c : Context) (path : List String) :
    Quiet (c.requireText path : Job X String) :=
  c.eachStep_requireText path

lemma quiet_requireNatural (c : Context) (path : List String) :
    Quiet (c.requireNatural path : Job X UInt64) :=
  c.eachStep_requireNatural path

lemma emits_submit (c : Context) (committish cloneUrl : String) :
    Emits [.build] (submit c committish cloneUrl : Job X CoprBuild) := by
  apply iteInduction (motive := Emits [.build])
  · intro _
    exact emits_fail _
  · intro _
    refine (emits_log _).bind fun _ => (emits_askPackaging rfl).bind fun build => ?_
    exact (emits_log _).bind fun _ => emits_pure _

lemma emits_proposeDownstream (c : Context) :
    Emits [.proposeRelease] ((proposeDownstream : Handler X).run c) := by
  apply (quiet_requireText c _).bind
  intro version
  exact (emits_log _).bind fun _ => emits_askPackaging rfl

lemma emits_checkDownstream (c : Context) :
    Emits [.checkPullRequest] ((checkDownstream : Handler X).run c) := by
  apply (quiet_requireNatural c _).bind
  intro number
  exact (emits_log _).bind fun _ => emits_askPackaging rfl

lemma emits_syncFromDownstream (c : Context) :
    Emits [.sourceUrl, .carryBack] ((syncFromDownstream : Handler X).run c) := by
  apply (quiet_requireText c _).bind
  intro branch
  refine (emits_askPackaging rfl).bind fun url => ?_
  refine Quiet.bind (eachStep_sourceOf url) fun source => (quiet_reach _).bind fun kind => ?_
  exact (emits_log _).bind fun _ => emits_askPackaging rfl

lemma emits_buildRelease (c : Context) :
    Emits [.build, .taggedCommit .upstream, .comment .upstream] (buildRelease c : Job X Unit) := by
  rw [buildRelease_eq]
  apply (quiet_requireText c _).bind
  intro url
  apply (quiet_requireText c _).bind
  intro tag
  refine (quiet_reach _).bind fun _ => (emits_submit c tag url).bind fun build => ?_
  exact (emits_askForge rfl).bind fun sha => emits_askForge rfl

lemma emits_buildPullRequest (c : Context) :
    Emits [.build, .comment .upstream] (buildPullRequest c : Job X Unit) := by
  rw [buildPullRequest_eq]
  apply (quiet_requireText c _).bind
  intro url
  apply (quiet_requireText c _).bind
  intro sha
  apply (quiet_requireNatural c _).bind
  intro number
  apply (quiet_requireText c _).bind
  intro owner
  apply (quiet_requireText c _).bind
  intro repo
  refine (quiet_reach _).bind fun kind => (emits_submit c sha url).bind fun build => ?_
  exact (emits_log _).bind fun _ => emits_askForge rfl

end Handler

lemma Builtin.emits {c : Context} {j : JobType} {h : Handler X} (hb : Builtin c.trigger j h) :
    Job.Emits (segment c.trigger j) (h.run c) := by
  generalize ht : c.trigger = t at hb ⊢
  cases hb with
  | proposeDownstream => exact Handler.emits_proposeDownstream c
  | buildRelease =>
    simp only [Handler.coprBuild, ht]
    exact Handler.emits_buildRelease c
  | checkDownstream => exact Handler.emits_checkDownstream c
  | buildPullRequest =>
    simp only [Handler.coprBuild, ht]
    exact Handler.emits_buildPullRequest c
  | syncFromDownstream => exact Handler.emits_syncFromDownstream c

def BrokenOff (t : Trigger) (jobs : List JobConfig) (cs : List Call) : Prop :=
  ∃ before job after last, jobs = before ++ job :: after ∧ Broken (segment t job.job) last ∧
    cs = granted (before.flatMap fun job => segment t job.job) ++ last

namespace BrokenOff

variable {t : Trigger} {jobs : List JobConfig} {cs : List Call}

lemma cons (job : JobConfig) (h : BrokenOff t jobs cs) :
    BrokenOff t (job :: jobs) (granted (segment t job.job) ++ cs) := by
  obtain ⟨before, job', after, last, rfl, hb, rfl⟩ := h
  exact ⟨job :: before, job', after, last, rfl, hb, by simp⟩

lemma ne_granted (h : BrokenOff t jobs cs) :
    cs ≠ granted (jobs.flatMap fun job => segment t job.job) := by
  obtain ⟨before, job, after, last, rfl, hb, rfl⟩ := h
  rw [List.flatMap_append, List.flatMap_cons, granted_append]
  intro hc
  exact hb.ne_granted (List.append_cancel_left hc)

end BrokenOff

namespace Dispatcher

variable {d : Dispatcher X} {c : Classified} {e : Event}

lemma PlanPath.granted_or_brokenOff {plan : List (Fate X)} {κ κ' : Contacts} {ss : List (Step X)}
    {r : Except JobError Unit} (h : d.PlanPath c e κ plan ss r κ')
    (hrun : ∀ job h, .run job h ∈ plan →
      Job.Emits (segment c.trigger job.job) (h.run (d.context c e job))) :
    r = .ok () ∧ calls ss = granted
        ((plan.filterMap Fate.job?).flatMap fun job => segment c.trigger job.job) ∨
      (∃ err, r = .error err) ∧ BrokenOff c.trigger (plan.filterMap Fate.job?) (calls ss) := by
  induction h with
  | done => exact .inl ⟨rfl, rfl⟩
  | skip _ ih => exact ih fun job h hm => hrun job h (List.mem_cons_of_mem _ hm)
  | @run _ _ _ job h rest ss₁ ss₂ r hp _ ih =>
    have hc : calls (.logged (running c job) :: ss₁ ++ ss₂) =
        granted (segment c.trigger job.job) ++ calls ss₂ := by
      rcases hrun job h (List.mem_cons_self ..) hp with ⟨-, hc⟩ | ⟨⟨_, hx⟩, -⟩
      · rw [calls_append, ← hc]
        rfl
      · simp at hx
    have hj : (Fate.run job h :: rest).filterMap Fate.job? = job :: rest.filterMap Fate.job? := rfl
    rw [hc, hj, List.flatMap_cons, granted_append]
    rcases ih fun job h hm => hrun job h (List.mem_cons_of_mem _ hm) with ⟨hr, hc⟩ | ⟨hr, hb⟩
    · exact .inl ⟨hr, by rw [hc]⟩
    · exact .inr ⟨hr, hb.cons job⟩
  | @fail _ _ job h rest ss err hp =>
    rcases hrun job h (List.mem_cons_self ..) hp with ⟨⟨_, hx⟩, -⟩ | ⟨-, hb⟩
    · simp at hx
    · exact .inr ⟨⟨err, rfl⟩, [], job, rest.filterMap Fate.job?, _, rfl, hb, rfl⟩

end Dispatcher

def Recognized.Asks (r : Recognized) (ss : List (Step X))
    (answer : Except ForgeError PackageConfig) (after : List (Step X)) : Prop :=
  ∃ before kind log, calls before = [] ∧
    ss = before ++ .askedForge r.side (r.configCall kind) answer log :: after

lemma first_call_unique {before before' after after' : List (Step X)} {x x' : Step X}
    (hb : calls before = []) (hb' : calls before' = []) (hx : x.call? ≠ none)
    (hx' : x'.call? ≠ none) (h : before ++ x :: after = before' ++ x' :: after') :
    x = x' ∧ after = after' := by
  rw [calls_eq_nil_iff] at hb hb'
  induction before generalizing before' with
  | nil =>
    cases before' with
    | nil => simpa using h
    | cons y before' =>
      obtain ⟨rfl, -⟩ := List.cons_eq_cons.mp h
      exact absurd (hb' x (List.mem_cons_self ..)) hx
  | cons y before ih =>
    cases before' with
    | nil =>
      obtain ⟨rfl, -⟩ := List.cons_eq_cons.mp h
      exact absurd (hb y (List.mem_cons_self ..)) hx'
    | cons y' before' =>
      obtain ⟨rfl, ht⟩ := List.cons_eq_cons.mp h
      refine ih ?_ ?_ ht
      · exact fun s hs => hb s (List.mem_cons_of_mem _ hs)
      · exact fun s hs => hb' s (List.mem_cons_of_mem _ hs)

lemma Recognized.Asks.unique {r : Recognized} {ss after after' : List (Step X)}
    {answer answer' : Except ForgeError PackageConfig} (h : r.Asks ss answer after)
    (h' : r.Asks ss answer' after') : answer = answer' ∧ after = after' := by
  obtain ⟨before, kind, log, hb, rfl⟩ := h
  obtain ⟨before', kind', log', hb', he⟩ := h'
  obtain ⟨hx, ha⟩ := first_call_unique hb hb' (by simp [Step.call?]) (by simp [Step.call?]) he
  cases hx
  exact ⟨rfl, ha⟩

lemma Recognized.Asks.calls_ne_nil {r : Recognized} {ss after : List (Step X)}
    {answer : Except ForgeError PackageConfig} (h : r.Asks ss answer after) : calls ss ≠ [] := by
  obtain ⟨before, kind, log, -, rfl⟩ := h
  intro hc
  rw [calls_eq_nil_iff] at hc
  have hx := hc _ (List.mem_append_right before (List.mem_cons_self ..))
  simp [Step.call?] at hx

namespace Dispatcher

def eligible (d : Dispatcher X) (r : Recognized) (package : PackageConfig) : List JobConfig :=
  package.jobs.filter (d.registry.serves r.trigger)

inductive Completes (d : Dispatcher X) (e : Event) (topic : Option String) :
    List (Step X) → Prop
  | dropped {ss : List (Step X)} : d.drops topic = true → calls ss = [] → Completes d e topic ss
  | unrecognized {ss : List (Step X)} : d.drops topic = false → e.recognized.value = none →
      calls ss = [] → Completes d e topic ss
  | served {r : Recognized} {ss after : List (Step X)} {package : PackageConfig} :
      d.drops topic = false → e.recognized.value = some r → r.Asks ss (.ok package) after →
      calls after =
        granted ((d.eligible r package).flatMap fun job => segment r.trigger job.job) →
      Completes d e topic ss

inductive Breaks (d : Dispatcher X) (e : Event) (topic : Option String) : List (Step X) → Prop
  | unconnected {r : Recognized} {ss : List (Step X)} {err : ForgeError} {log : List Log.Record} :
      d.drops topic = false → e.recognized.value = some r →
      .attempted r.side (.error err) log ∈ ss → calls ss = [] → Breaks d e topic ss
  | unfetched {r : Recognized} {ss : List (Step X)} {err : ForgeError} :
      d.drops topic = false → e.recognized.value = some r → r.Asks ss (.error err) [] →
      Breaks d e topic ss
  | brokenOff {r : Recognized} {ss after : List (Step X)} {package : PackageConfig} :
      d.drops topic = false → e.recognized.value = some r → r.Asks ss (.ok package) after →
      BrokenOff r.trigger (d.eligible r package) (calls after) → Breaks d e topic ss

variable {d : Dispatcher X} {e : Event} {topic : Option String} {ss : List (Step X)}

lemma Completes.not_breaks (h : d.Completes e topic ss) : ¬ d.Breaks e topic ss := by
  intro h'
  cases h with
  | dropped ht _ => cases h' <;> simp_all
  | unrecognized _ hv _ => cases h' <;> simp_all
  | served _ hv ha hc =>
    cases h' with
    | unconnected _ _ _ hn => exact ha.calls_ne_nil hn
    | unfetched _ hv' ha' =>
      obtain rfl := Option.some.inj (hv.symm.trans hv')
      obtain ⟨hx, -⟩ := ha.unique ha'
      simp at hx
    | brokenOff _ hv' ha' hb =>
      -- Both tell of the first call, so that they agree on its answer and on what comes after it.
      obtain rfl := Option.some.inj (hv.symm.trans hv')
      obtain ⟨hx, rfl⟩ := ha.unique ha'
      obtain rfl := Except.ok.inj hx
      exact hb.ne_granted hc

lemma completes_or_breaks {κ κ' : Contacts} {r : Except JobError Unit}
    (hd : Registry.standard.value = .ok d.registry) (h : d.DispatchPath e topic κ ss r κ') :
    r = .ok () ∧ d.Completes e topic ss ∨ (∃ err, r = .error err) ∧ d.Breaks e topic ss := by
  cases h with
  | dropped note ht => exact .inl ⟨rfl, .dropped ht (calls_records _)⟩
  | unrecognized note ht hv => exact .inl ⟨rfl, .unrecognized ht hv (calls_records _)⟩
  | unclassified ht hc =>
    refine .inr ⟨⟨_, rfl⟩, ?_⟩
    cases hc with
    | @unreached r rs err _ hv hr =>
      have hm : ∃ log, .attempted r.side (.error err) log ∈ rs := by
        cases hr with
        | fails err log _ => exact ⟨log, List.mem_singleton_self _⟩
      obtain ⟨log, hm⟩ := hm
      exact .unconnected ht hv (List.mem_append_right _ hm) (hr.calls_records_append _)
    | @unfetched r rs kind err log _ hv hr =>
      exact .unfetched ht hv ⟨_, kind, log, hr.calls_records_append _, rfl⟩
  | @classified c ss₁ ss₂ _ κ₁ _ ht hc hp =>
    cases hc with
    | @classified r rs kind package log notes _ hv hr =>
      have ha : r.Asks (records e.recognized.log ++ rs ++
          .askedForge r.side (r.configCall kind) (.ok package) log :: records notes ++ ss₂)
          (.ok package) (records notes ++ ss₂) :=
        ⟨_, kind, log, hr.calls_records_append _, List.append_assoc ..⟩
      have hj : (d.registry.plan r.trigger (r.located package).jobs).filterMap Fate.job? =
          d.eligible r package := by
        rw [Registry.jobs_plan, Recognized.located_jobs]
        rfl
      have hs : calls (records notes ++ ss₂) = calls ss₂ := by
        rw [calls_append, calls_records]
        rfl
      have hrun : ∀ job h, .run job h ∈ d.registry.plan r.trigger (r.located package).jobs →
          Job.Emits (segment r.trigger job.job)
            (h.run (d.context (r.classified kind package) e job)) := by
        intro job h hm
        obtain ⟨-, -, hh, ht⟩ := Registry.mem_plan_run_iff.mp hm
        exact Builtin.emits (c := d.context (r.classified kind package) e job)
          (Registry.standard_builtin hd hh ht)
      rcases hp.granted_or_brokenOff hrun with ⟨hr, hc⟩ | ⟨hr, hb⟩
      · refine .inl ⟨hr, .served ht hv ha ?_⟩
        rw [hs, hc, ← hj]
        rfl
      · refine .inr ⟨hr, .brokenOff ht hv ha ?_⟩
        rw [hs, ← hj]
        exact hb

theorem dispatch_calls (hd : Registry.standard.value = .ok d.registry) (e : Event)
    (topic : Option String) (k : Collaborators X (StateM σ)) (s : σ) :
    let o := ((d.dispatch e topic).run.run k s).1
    let steps := (d.dispatch e topic).run.steps k s
    o.transcript = steps.flatMap Step.entries ∧
      (o.value = .ok () ↔ d.Completes e topic steps) ∧
      ((∃ err, o.value = .error err) ↔ d.Breaks e topic steps) := by
  intro o steps
  obtain ⟨hp, ht⟩ := (d.dispatch e topic).run.run_path k s
  refine ⟨ht, ?_⟩
  rcases completes_or_breaks hd (path_dispatch hp) with ⟨hv, hc⟩ | ⟨⟨err, hv⟩, hb⟩
  · have hv : o.value = .ok () := hv
    rw [hv]
    exact ⟨⟨fun _ => hc, fun _ => rfl⟩, ⟨nofun, fun hb => absurd hb hc.not_breaks⟩⟩
  · have hv : o.value = .error err := hv
    rw [hv]
    exact ⟨⟨nofun, fun hc => absurd hb hc.not_breaks⟩, ⟨fun _ => hb, fun _ => ⟨err, rfl⟩⟩⟩

def published : Event where
  payload := .object [
    ("action", .text "published"),
    ("release", .object [("tag_name", .text "v1.0")]),
    ("repository", .object [
      ("clone_url", .text "https://forge.example/acme/widget.git"),
      ("name", .text "widget"),
      ("owner", .object [("login", .text "acme")])])]

def builtAndProposed : PackageConfig where
  jobs := [⟨.coprBuild, .release, [("targets", .text "rawhide")]⟩, ⟨.coprBuild, .release, []⟩,
    ⟨.proposeDownstream, .release, []⟩]

theorem dispatch_calls_published :
    let k : Collaborators Extras.none (StateM Unit) := .granting builtAndProposed
    let steps := (standard.dispatch published none).run.steps k ()
    Registry.standard.value = .ok (standard : Dispatcher Extras.none).registry ∧
      calls steps = granted [.packageConfig .upstream, .build, .taggedCommit .upstream,
        .comment .upstream] ∧
      standard.Breaks published none steps := by
  intro k steps
  have hd : Registry.standard.value = .ok (standard : Dispatcher Extras.none).registry :=
    Registry.standard_value
  obtain ⟨-, -, hb⟩ := dispatch_calls hd published none k ()
  refine ⟨hd, by decide +kernel, hb.mp ⟨.configuration ?_, ?_⟩⟩
  · exact "'targets' value is required in package config for copr_build job"
  · decide +kernel

end Dispatcher

end JobDispatch
