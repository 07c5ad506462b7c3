import JobDispatch.Proofs.Answers
import JobDispatch.Proofs.Dispatch

namespace JobDispatch

variable {X : Extras} {α β : Type}

namespace Job

def Leads (A : Answers) (P : Step X → Prop) (E : Prop) (j : Job X α) (Q : α → Prop) : Prop :=
  ∀ ⦃κ ss r κ'⦄, Program.Path κ j.run ss r κ' → A.Known κ → (∀ st ∈ ss, A.Allow st) →
    (∀ st ∈ ss, P st) ∧
      match r with
      | .ok a => Q a
      | .error _ => E

variable {A : Answers} {P : Step X → Prop} {E : Prop}

lemma Leads.bind {j : Job X α} {f : α → Job X β} {Q : β → Prop}
    (h : j.Leads A P E fun a => (f a).Leads A P E Q) : (j >>= f).Leads A P E Q := by
  intro κ ss r κ' hp hκ hs
  rcases path_bind.mp hp with ⟨err, rfl, hj⟩ | ⟨a, κ₁, ss₁, ss₂, rfl, h₁, h₂⟩
  · exact h hj hκ hs
  · rw [List.forall_mem_append] at hs
    obtain ⟨hP, hf⟩ := h h₁ hκ hs.1
    obtain ⟨hP', hr⟩ := hf h₂ (h₁.known hκ hs.1) hs.2
    exact ⟨List.forall_mem_append.mpr ⟨hP, hP'⟩, hr⟩

lemma Leads.imp {j : Job X α} {E' : Prop} {Q Q' : α → Prop} (h : j.Leads A P E Q) (hE : E → E')
    (hQ : ∀ a, Q a → Q' a) : j.Leads A P E' Q' := by
  intro κ ss r κ' hp hκ hs
  obtain ⟨hP, hr⟩ := h hp hκ hs
  cases r with
  | error err => exact ⟨hP, hE hr⟩
  | ok a => exact ⟨hP, hQ a hr⟩

lemma leads_pure {a : α} {Q : α → Prop} (h : Q a) : (pure a : Job X α).Leads A P E Q := by
  intro κ ss r κ' hp hκ hs
  obtain ⟨rfl, rfl, rfl⟩ := path_pure.mp hp
  exact ⟨List.forall_mem_nil _, h⟩

lemma leads_fail {err : JobError} {Q : α → Prop} (h : E) : (fail err : Job X α).Leads A P E Q := by
  intro κ ss r κ' hp hκ hs
  obtain ⟨rfl, rfl, rfl⟩ := path_fail.mp hp
  exact ⟨List.forall_mem_nil _, h⟩

lemma leads_log {rec : Log.Record} {Q : Unit → Prop} (hP : P (.logged rec)) (h : Q ()) :
    (log rec : Job X Unit).Leads A P E Q := by
  intro κ ss r κ' hp hκ hs
  obtain ⟨rfl, rfl, rfl⟩ := path_log.mp hp
  exact ⟨by simpa using hP, h⟩

lemma leads_reach {side : Side} {Q : Side → Prop}
    (hP : ∀ outcome log, P (.attempted side outcome log))
    (hE : ∀ err, A.reach side (.error err) → E) (h : ∀ kind, A.reach side (.ok kind) → Q kind) :
    (reach side : Job X Side).Leads A P E Q := by
  intro κ ss r κ' hp hκ hs
  obtain ⟨x, hr, rfl⟩ := path_reach.mp hp
  have hx := hr.allowed (hκ side) hs
  constructor
  · intro st hst
    obtain ⟨outcome, log, rfl⟩ := hr.attempted hst
    exact hP outcome log
  · cases x with
    | error err => exact hE err hx
    | ok kind => exact h kind hx

lemma leads_askForge {side : Side} {call : ForgeCall} {Q : call.Result → Prop}
    (hA : ∀ outcome log, P (.attempted side outcome log))
    (hP : ∀ answer log, P (.askedForge side call answer log))
    (hE : ∀ err, A.reach side (.error err) ∨ A.forge side call (.error err) → E)
    (h : ∀ a, A.forge side call (.ok a) → Q a) :
    (askForge side call : Job X call.Result).Leads A P E Q := by
  intro κ ss r κ' hp hκ hs
  refine ⟨eachStep_askForge hA hP hp, ?_⟩
  rcases path_askForge.mp hp with ⟨err, hr, rfl⟩ | ⟨kind, rs, x, log, hr, rfl, rfl⟩
  · exact hE err (.inl (hr.allowed (hκ side) hs))
  · have hx : A.Allow (.askedForge side call x log : Step X) :=
      hs _ (List.mem_append_right _ (List.mem_singleton_self _))
    cases x with
    | error err => exact hE err (.inr hx)
    | ok a => exact h a hx

lemma leads_askPackaging {call : PackagingCall} {Q : call.Result → Prop}
    (hP : ∀ answer log, P (.askedPackaging call answer log))
    (hE : ∀ err, A.packaging call (.error err) → E)
    (h : ∀ a, A.packaging call (.ok a) → Q a) :
    (askPackaging call : Job X call.Result).Leads A P E Q := by
  intro κ ss r κ' hp hκ hs
  refine ⟨eachStep_askPackaging hP hp, ?_⟩
  obtain ⟨x, log, rfl, rfl, rfl⟩ := path_askPackaging.mp hp
  have hx : A.Allow (.askedPackaging call x log : Step X) := hs _ (List.mem_singleton_self _)
  cases x with
  | error err => exact hE err hx
  | ok a => exact h a hx

end Job

namespace Dispatcher

variable {c : Classified} {F : JobConfig → Prop} {jobs : List JobConfig} {ss : List (Step X)}

def StopsAtFirst (c : Classified) (F : JobConfig → Prop) (jobs : List JobConfig)
    (ss : List (Step X)) : Prop :=
  ∃ earlier job later before since, jobs = earlier ++ job :: later ∧
    (∀ other ∈ earlier, ¬ F other) ∧ F job ∧ ss = before ++ .logged (running c job) :: since ∧
    ∀ c other, .logged (running c other) ∉ since

namespace StopsAtFirst

lemma exists_mem (h : StopsAtFirst c F jobs ss) : ∃ job ∈ jobs, F job := by
  obtain ⟨earlier, job, later, -, -, rfl, -, hf, -⟩ := h
  exact ⟨job, by simp, hf⟩

lemma append_left (h : StopsAtFirst c F jobs ss) (ss₀ : List (Step X)) :
    StopsAtFirst c F jobs (ss₀ ++ ss) := by
  obtain ⟨earlier, job, later, before, since, hj, hn, hf, rfl, hs⟩ := h
  exact ⟨earlier, job, later, ss₀ ++ before, since, hj, hn, hf, (List.append_assoc ..).symm, hs⟩

lemma cons {job : JobConfig} (hn : ¬ F job) (h : StopsAtFirst c F jobs ss) :
    StopsAtFirst c F (job :: jobs) ss := by
  obtain ⟨earlier, stop, later, before, since, rfl, hearlier, hf, hss, hs⟩ := h
  exact ⟨job :: earlier, stop, later, before, since, rfl,
    List.forall_mem_cons.mpr ⟨hn, hearlier⟩, hf, hss, hs⟩

end StopsAtFirst

lemma PlanPath.leads {A : Answers} {P : Step X → Prop} {d : Dispatcher X} {e : Event}
    {plan : List (Fate X)} {κ κ' : Contacts} {r : Except JobError Unit}
    (h : d.PlanPath c e κ plan ss r κ') (hκ : A.Known κ) (hs : ∀ st ∈ ss, A.Allow st)
    (hP : ∀ rec, P (.logged rec))
    (hrun : ∀ job h, .run job h ∈ plan →
      (h.run (d.context c e job)).Leads A P (F job) (fun _ => ¬ F job) ∧
        Job.EachStep (fun st => ∀ c other, st ≠ .logged (running c other))
          (h.run (d.context c e job))) :
    (∀ st ∈ ss, P st) ∧
      (r = .ok () ∧ (∀ job ∈ plan.filterMap Fate.job?, ¬ F job) ∨
        (∃ err, r = .error err) ∧ StopsAtFirst c F (plan.filterMap Fate.job?) ss) := by
  -- What is known of the contacts passes from each declaration to the next. One that comes to its
  -- end is not in `F`, so that the one that fails is the first.
  induction h with
  | done => exact ⟨by simp, .inl ⟨rfl, by simp⟩⟩
  | @skip _ _ warning _ _ _ _ ih =>
    obtain ⟨-, hs⟩ := List.forall_mem_cons.mp hs
    obtain ⟨hsteps, hend⟩ := ih hκ hs fun job h hm => hrun job h (List.mem_cons_of_mem _ hm)
    exact ⟨List.forall_mem_cons.mpr ⟨hP _, hsteps⟩,
      hend.imp_right fun ⟨hr, hstop⟩ => ⟨hr, hstop.append_left [.logged warning]⟩⟩
  | @run _ _ _ job h _ ss₁ _ _ hp _ ih =>
    obtain ⟨hs₁, hs₂⟩ := List.forall_mem_append.mp hs
    obtain ⟨-, hs₁⟩ := List.forall_mem_cons.mp hs₁
    obtain ⟨hsteps₁, hn⟩ := (hrun job h (List.mem_cons_self ..)).1 hp hκ hs₁
    obtain ⟨hsteps, hend⟩ := ih (hp.known hκ hs₁) hs₂ fun job h hm =>
      hrun job h (List.mem_cons_of_mem _ hm)
    refine ⟨List.forall_mem_append.mpr ⟨List.forall_mem_cons.mpr ⟨hP _, hsteps₁⟩, hsteps⟩, ?_⟩
    exact hend.imp (fun ⟨hr, hrest⟩ => ⟨hr, List.forall_mem_cons.mpr ⟨hn, hrest⟩⟩)
      fun ⟨hr, hstop⟩ => ⟨hr, (hstop.append_left _).cons hn⟩
  | @fail _ _ job h rest ss err hp =>
    obtain ⟨-, hs⟩ := List.forall_mem_cons.mp hs
    obtain ⟨hleads, hquiet⟩ := hrun job h (List.mem_cons_self ..)
    obtain ⟨hsteps, hf⟩ := hleads hp hκ hs
    exact ⟨List.forall_mem_cons.mpr ⟨hP _, hsteps⟩, .inr ⟨⟨err, rfl⟩, [], job, _, [], ss, rfl,
      by simp, hf, rfl, fun c other hm => hquiet hp _ hm c other rfl⟩⟩

end Dispatcher

end JobDispatch
