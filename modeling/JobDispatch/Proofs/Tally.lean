import JobDispatch.Proofs.Calls
import JobDispatch.Proofs.Listener
import JobDispatch.Proofs.Turn

namespace JobDispatch

open EventStream

variable {X : Extras} {σ : Type}

instance : Add Summary where
  add a b := ⟨a.processed + b.processed, a.failed + b.failed⟩

lemma Summary.zero_add (a : Summary) : ({} : Summary) + a = a := by
  change (⟨0 + a.processed, 0 + a.failed⟩ : Summary) = a
  rw [UInt64.zero_add, UInt64.zero_add]

lemma Summary.add_succeeded (a : Summary) : a + ⟨1, 0⟩ = ⟨a.processed + 1, a.failed⟩ :=
  congrArg (mk (a.processed + 1)) a.failed.add_zero

lemma Summary.add_assoc (a b c : Summary) : a + b + c = a + (b + c) := by
  change (⟨a.processed + b.processed + c.processed, a.failed + b.failed + c.failed⟩ : Summary) =
    ⟨a.processed + (b.processed + c.processed), a.failed + (b.failed + c.failed)⟩
  rw [UInt64.add_assoc, UInt64.add_assoc]

lemma Summary.add_zero (a : Summary) : a + {} = a := by
  change (⟨a.processed + 0, a.failed + 0⟩ : Summary) = a
  rw [UInt64.add_zero, UInt64.add_zero]

def Summary.of (d : Dispatcher X) (ts : List (Turn X σ)) : Summary :=
  ⟨.ofNat ts.length, .ofNat (ts.countP (Turn.failed d))⟩

lemma Summary.of_singleton (d : Dispatcher X) (t : Turn X σ) :
    of d [t] = ⟨1, if t.failed d then 1 else 0⟩ := by
  cases hf : t.failed d <;> simp [of, hf]

lemma Summary.of_append (d : Dispatcher X) (ts us : List (Turn X σ)) :
    of d (ts ++ us) = of d ts + of d us := by
  change _ = (⟨_, _⟩ : Summary)
  rw [of, List.length_append, List.countP_append, UInt64.ofNat_add, UInt64.ofNat_add]
  rfl

namespace EventStream

def Sound (xs : List Delivery) : Prop := ∀ e, .failure e ∉ xs

lemma Sound.of_cons {x : Delivery} {xs : List Delivery} (h : Sound (x :: xs)) : Sound xs :=
  fun e he => h e (List.mem_cons_of_mem x he)

lemma Sound.append {xs ys : List Delivery} (hx : Sound xs) (hy : Sound ys) : Sound (xs ++ ys) :=
  fun e he => (List.mem_append.mp he).elim (hx e) (hy e)

def Delivery.message? : Delivery → Option (Event × Option String)
  | .event i => some (i.event, i.topic)
  | .malformed _ | .failure _ => none

def messages (xs : List Delivery) : List (Event × Option String) :=
  xs.filterMap Delivery.message?

lemma messages_append (xs ys : List Delivery) : messages (xs ++ ys) = messages xs ++ messages ys :=
  List.filterMap_append ..

end EventStream

namespace Turn

variable (d : Dispatcher X) (t : Turn X σ)

def report : List (Step X) :=
  match t.result d with
  | .ok () => []
  | .error e => [.logged (Listener.failedWith e t.message.2)]

def told : List (Step X) :=
  .logged (Listener.received t.message.2) :: (t.steps d ++ t.report d)

end Turn

namespace Listener

def told (d : Dispatcher X) :
    List Delivery → Collaborators X (StateM σ) → σ → List (Step X)
  | [], _, _ => []
  | .event i :: rest, k, s =>
    let t : Turn X σ := ⟨(i.event, i.topic), k, s⟩
    t.told d ++ told d rest (t.left d).1 (t.left d).2
  | .malformed line :: rest, k, s => .logged (skipped line) :: told d rest k s
  | .failure _ :: _, _, _ => []

variable (d : Dispatcher X) (k : Collaborators X (StateM σ)) (s : σ) {xs ys : List Delivery}

open Program in
lemma process_runs (a : Summary) (i : Inbound) :
    let t : Turn X σ := ⟨(i.event, i.topic), k, s⟩
    (process d a i).Runs k s (a + .of d [t]) (t.left d) (t.told d) := by
  intro t
  refine Runs.log _ ((runs_self (d.dispatch i.event i.topic).run k s).bind ?_)
  have hr : ((d.dispatch i.event i.topic).run.run k s).1.value = t.result d := rfl
  rw [hr, Turn.report, Summary.of_singleton, Turn.failed]
  cases t.result d with
  | ok u =>
    have ha : a + ⟨1, if !(Except.ok u : Except JobError Unit).isOk then 1 else 0⟩ =
      ⟨a.processed + 1, a.failed⟩ := a.add_succeeded
    rw [ha]
    exact runs_done _
  | error e => exact (runs_done _).log _

open Program in
lemma feed_runs (hx : Sound xs) (a : Summary) :
    (feed d a xs).Runs k s (.ok (a + .of d (d.turns (messages xs) k s)))
      (d.afterAll (messages xs) k s) (told d xs k s) := by
  -- What has been counted so far is carried along, and each event adds its own turn to it.
  induction xs generalizing a k s with
  | nil =>
    have ha : a + .of d (d.turns (messages []) k s) = a := a.add_zero
    rw [ha]
    exact runs_done _
  | cons x xs ih =>
    cases x with
    | event i =>
      let t : Turn X σ := ⟨(i.event, i.topic), k, s⟩
      have hstep : (step d a (.event i)).Runs k s (.ok (a + .of d [t])) (t.left d) (t.told d) := by
        rw [← List.append_nil (t.told d)]
        exact (process_runs d k s a i).bind (runs_done _)
      have hts : d.turns (messages (.event i :: xs)) k s =
        [t] ++ d.turns (messages xs) (t.left d).1 (t.left d).2 := rfl
      rw [feed, hts, Summary.of_append, ← Summary.add_assoc]
      exact hstep.bind (ih (t.left d).1 (t.left d).2 hx.of_cons (a + .of d [t]))
    | malformed line => exact (ih k s hx.of_cons a).log (skipped line)
    | failure e => exact absurd (List.mem_cons_self ..) (hx e)

open Program in
lemma run_runs (hx : Sound xs) :
    let a := Summary.of d (d.turns (messages xs) k s)
    (run d xs).Runs k s (.ok a) (d.afterAll (messages xs) k s)
      (told d xs k s ++ [.logged (exhausted a)]) := by
  intro a
  rw [run, ← List.append_nil xs, runFrom_append, List.append_nil, ← Summary.zero_add a]
  exact (feed_runs d k s hx {}).bind ((runs_done _).log _)

open Program in
lemma run_runs_failure (hx : Sound xs) (e : StreamError) (zs : List Delivery) :
    (run d (xs ++ .failure e :: zs)).Runs k s (.error e) (d.afterAll (messages xs) k s)
      (told d xs k s) := by
  rw [run, runFrom_append, ← List.append_nil (told d xs k s)]
  exact (feed_runs d k s hx {}).bind (runs_done _)

lemma told_append (hx : Sound xs) :
    told d (xs ++ ys) k s = told d xs k s ++
      told d ys (d.afterAll (messages xs) k s).1 (d.afterAll (messages xs) k s).2 := by
  induction xs generalizing k s with
  | nil => rfl
  | cons x xs ih =>
    cases x with
    | event i =>
      rw [List.cons_append, told, told, ih _ _ hx.of_cons, List.append_assoc]
      rfl
    | malformed line => exact congrArg (_ :: ·) (ih k s hx.of_cons)
    | failure e => exact absurd (List.mem_cons_self ..) (hx e)

end Listener

section Errors

def Step.isError : Step X → Bool
  | .logged r => r.level = .error
  | _ => false

def Registry.Calm (r : Registry X) : Prop :=
  ∀ j h c, r.handler? j = some h → c.trigger ∈ h.triggers →
    Job.EachStep (fun st => st.isError = false) (h.run c)

lemma Registry.standard_calm {r : Registry X} (hr : standard.value = .ok r) : r.Calm := by
  intro j h c hj ht
  refine (Builtin.takes (standard_builtin hr hj ht)).imp fun st hst => ?_
  cases st with
  | logged rec => simp [Step.isError, hst.of_logged.1]
  | _ => rfl

variable {d : Dispatcher X}

lemma Dispatcher.eachStep_calm (hd : d.registry.Calm) (e : Event) (topic : Option String) :
    Job.EachStep (fun st => st.isError = false) (d.dispatch e topic) := by
  refine eachStep_dispatch ?_ ?_ ?_ ?_ topic
  · intro rec _ hl
    simpa [Step.isError] using hl
  · intros
    rfl
  · intros
    rfl
  · intro c job h hj ht
    exact hd job.job h _ hj ht

lemma Turn.errors_told (d : Dispatcher X) (t : Turn X σ) :
    (t.told d).countP Step.isError =
      (t.steps d).countP Step.isError + [t].countP (Turn.failed d) := by
  rw [told, List.countP_cons_of_neg (by simp [Step.isError, Listener.received]),
    List.countP_append, report, List.countP_singleton, failed]
  cases t.result d <;> simp [Step.isError, Listener.failedWith, Log.Record.error]

lemma Turn.errors_eq_zero (hd : d.registry.Calm) (t : Turn X σ) :
    (t.steps d).countP Step.isError = 0 := by
  obtain ⟨hp, -⟩ := (d.dispatch t.message.1 t.message.2).run.run_path t.collaborators t.state
  rw [List.countP_eq_zero]
  intro st hst
  simpa using Dispatcher.eachStep_calm hd _ _ hp st hst

lemma Listener.errors_told {xs : List Delivery} (hx : Sound xs) (k : Collaborators X (StateM σ))
    (s : σ) :
    (told d xs k s).countP Step.isError =
      ((d.turns (messages xs) k s).map fun t => (t.steps d).countP Step.isError).sum +
        (d.turns (messages xs) k s).countP (Turn.failed d) := by
  induction xs generalizing k s with
  | nil => rfl
  | cons x xs ih =>
    cases x with
    | event i =>
      let t : Turn X σ := ⟨(i.event, i.topic), k, s⟩
      have hts : d.turns (messages (.event i :: xs)) k s =
        [t] ++ d.turns (messages xs) (t.left d).1 (t.left d).2 := rfl
      have htold : told d (.event i :: xs) k s =
        t.told d ++ told d xs (t.left d).1 (t.left d).2 := rfl
      rw [htold, hts, List.countP_append, t.errors_told, ih hx.of_cons, List.countP_append,
        List.map_append, List.sum_append, List.map_singleton, List.sum_singleton]
      omega
    | malformed line =>
      rw [told, List.countP_cons_of_neg (by simp [Step.isError, skipped])]
      exact ih hx.of_cons k s
    | failure e => exact absurd (List.mem_cons_self ..) (hx e)

end Errors

namespace Listener

/-- What a run over `xs ++ ys` does and counts is what a run over `xs` does and counts, and then a
run over `ys` from where that one has stopped. -/
theorem run_append (d : Dispatcher X) {xs ys : List Delivery} (hx : Sound xs) (hy : Sound ys)
    (k : Collaborators X (StateM σ)) (s : σ) :
    let ts := d.turns (messages xs) k s
    let mid := d.afterAll (messages xs) k s
    let us := d.turns (messages ys) mid.1 mid.2
    let last := d.afterAll (messages ys) mid.1 mid.2
    let a := Summary.of d ts
    let b := Summary.of d us
    let steps := told d xs k s ++ [.logged (exhausted a)]
    (run d xs).Runs k s (.ok a) mid steps ∧
      (run d ys).Runs mid.1 mid.2 (.ok b) last
        (told d ys mid.1 mid.2 ++ [.logged (exhausted b)]) ∧
      (run d (xs ++ ys)).Runs k s (.ok (a + b)) last
        (told d xs k s ++ told d ys mid.1 mid.2 ++ [.logged (exhausted (a + b))]) ∧
      d.turns (messages (xs ++ ys)) k s = ts ++ us ∧
      (ts ++ us).map Turn.message = messages (xs ++ ys) ∧
      a.processed = .ofNat (messages xs).length ∧ a.failed = .ofNat (ts.countP (Turn.failed d)) ∧
      steps.countP Step.isError =
        (ts.map fun t => (t.steps d).countP Step.isError).sum + ts.countP (Turn.failed d) ∧
      (d.registry.Calm → steps.countP Step.isError = ts.countP (Turn.failed d)) ∧
      (Registry.standard.value = .ok d.registry → d.registry.Calm) ∧
      ∀ e zs, (run d (xs ++ .failure e :: zs)).Runs k s (.error e) mid (told d xs k s) := by
  intro ts mid us last a b steps
  have hts : d.turns (messages (xs ++ ys)) k s = ts ++ us := by
    rw [messages_append, Dispatcher.turns_append]
  have hboth := run_runs d k s (hx.append hy)
  rw [hts, Summary.of_append, messages_append, Dispatcher.afterAll_append,
    told_append d k s hx] at hboth
  have herrors : steps.countP Step.isError =
      (ts.map fun t => (t.steps d).countP Step.isError).sum + ts.countP (Turn.failed d) := by
    rw [List.countP_append, errors_told hx k s]
    rfl
  refine ⟨run_runs d k s hx, run_runs d mid.1 mid.2 hy, hboth, hts, ?_,
    congrArg UInt64.ofNat (d.length_turns _ k s), rfl, herrors, ?_, Registry.standard_calm,
    run_runs_failure d k s hx⟩
  · rw [← hts, Dispatcher.turns_message]
  · intro hd
    rw [herrors]
    simp [Turn.errors_eq_zero hd]

theorem run_append_published :
    let d : Dispatcher Extras.none := .standard
    let k : Collaborators Extras.none (StateM Unit) := .granting Dispatcher.declaredBuilds
    let xs : List Delivery := [.event ⟨Dispatcher.published, none⟩, .malformed 2]
    let ys : List Delivery := [.event ⟨⟨.object []⟩, none⟩]
    Sound xs ∧ Sound ys ∧ Registry.standard.value = .ok d.registry ∧ d.registry.Calm ∧
      ((run d xs).steps k ()).countP Step.isError = 1 ∧
      ((run d xs).run k ()).1.value = .ok ⟨1, 1⟩ ∧
      ((run d (xs ++ ys)).run k ()).1.value = .ok ⟨2, 1⟩ ∧
      ((run d (xs ++ .failure .notUtf8 :: ys)).run k ()).1.value = .error .notUtf8 := by
  intro d k xs ys
  have hx : Sound xs := by
    intro e he
    simp [xs] at he
  have hy : Sound ys := by
    intro e he
    simp [ys] at he
  have hd : Registry.standard.value = .ok d.registry := Registry.standard_value
  obtain ⟨hxs, -, hboth, -, -, -, -, -, herrors, hcalm, hfails⟩ := run_append d hx hy k ()
  have ha : Summary.of d (d.turns (messages xs) k ()) = ⟨1, 1⟩ := by decide +kernel
  have hb : Summary.of d (d.turns (messages ys) (d.afterAll (messages xs) k ()).1 ()) = ⟨1, 0⟩ := by
    decide +kernel
  refine ⟨hx, hy, hd, hcalm hd, ?_, ?_, ?_, (hfails .notUtf8 ys).value⟩
  · rw [hxs.steps, herrors (hcalm hd)]
    decide +kernel
  · rw [hxs.value, ha]
  · refine hboth.value.trans ?_
    rw [ha]
    exact congrArg (fun b => Except.ok (⟨1, 1⟩ + b)) hb

end Listener

end JobDispatch
