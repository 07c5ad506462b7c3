import JobDispatch.Proofs.Path

namespace JobDispatch

variable {X : Extras} {σ α β : Type}

lemma Program.run_bind_apply (p : Program X α) (f : α → Program X β)
    (k : Collaborators X (StateM σ)) (s : σ) :
    (p.bind f).run k s =
      let o := p.run k s
      let o' := (f o.1.value).run o.1.collaborators o.2
      (o'.1.after o.1.transcript, o'.2) := by
  rw [run_bind]
  rfl

lemma Program.steps_bind (p : Program X α) (f : α → Program X β) (k : Collaborators X (StateM σ))
    (s : σ) :
    (p.bind f).steps k s =
      p.steps k s ++ (f (p.run k s).1.value).steps (p.run k s).1.collaborators (p.run k s).2 := by
  induction p generalizing k s with
  | done a => rfl
  | log r next ih => exact congrArg (_ :: ·) (ih k s)
  | reach side next ih =>
    simp only [bind, steps, run, stateM_bind, stateM_pure]
    generalize (k.link side).use s = us
    obtain ⟨u, s₁⟩ := us
    exact (congrArg (_ ++ ·) (ih _ _ _)).trans (List.append_assoc ..).symm
  | askForge side call next ih =>
    simp only [bind, steps, run, stateM_bind]
    generalize (k.link side).use s = us
    obtain ⟨u, s₁⟩ := us
    cases hu : u.result with
    | error err =>
      simp only [hu]
      exact (congrArg (_ ++ ·) (ih _ _ _)).trans (List.append_assoc ..).symm
    | ok f =>
      simp only [hu, stateM_bind]
      generalize f.ask call s₁ = xs
      obtain ⟨x, s₂⟩ := xs
      refine (congrArg (_ ++ _ :: ·) (ih _ _ _)).trans ?_
      rw [List.append_assoc, List.cons_append]
      rfl
  | askPackaging call next ih => exact congrArg (_ :: ·) (ih _ _ _)
  | act a next ih => exact congrArg (_ :: ·) (ih _ _ _)

structure Program.Runs (p : Program X α) (k : Collaborators X (StateM σ)) (s : σ) (a : α)
    (left : Collaborators X (StateM σ) × σ) (ss : List (Step X)) : Prop where
  value : (p.run k s).1.value = a
  left : ((p.run k s).1.collaborators, (p.run k s).2) = left
  steps : p.steps k s = ss
  transcript : (p.run k s).1.transcript = ss.flatMap Step.entries

namespace Program

variable {p : Program X α} {f : α → Program X β} {k : Collaborators X (StateM σ)} {s : σ}
  {a : α} {b : β} {mid left : Collaborators X (StateM σ) × σ} {ss ss' : List (Step X)}

lemma runs_self (p : Program X α) (k : Collaborators X (StateM σ)) (s : σ) :
    p.Runs k s (p.run k s).1.value ((p.run k s).1.collaborators, (p.run k s).2) (p.steps k s) :=
  ⟨rfl, rfl, rfl, (p.run_path k s).2⟩

lemma runs_done (a : α) : (done a : Program X α).Runs k s a (k, s) [] :=
  runs_self _ k s

lemma Runs.log (r : Log.Record) (h : p.Runs k s a left ss) :
    (log r p).Runs k s a left (.logged r :: ss) := by
  obtain ⟨rfl, rfl, rfl, -⟩ := h
  exact runs_self (.log r p) k s

lemma Runs.bind (h : p.Runs k s a mid ss) (hf : (f a).Runs mid.1 mid.2 b left ss') :
    (p.bind f).Runs k s b left (ss ++ ss') := by
  obtain ⟨rfl, rfl, rfl, -⟩ := h
  obtain ⟨rfl, rfl, rfl, -⟩ := hf
  rw [← steps_bind]
  have h := runs_self (p.bind f) k s
  rwa [run_bind_apply] at h

end Program

structure Turn (X : Extras) (σ : Type) where
  message : Event × Option String
  collaborators : Collaborators X (StateM σ)
  state : σ

namespace Turn

variable (d : Dispatcher X) (t : Turn X σ)

def outcome : Outcome X (StateM σ) (Except JobError Unit) × σ :=
  (d.dispatch t.message.1 t.message.2).run.run t.collaborators t.state

def steps : List (Step X) :=
  (d.dispatch t.message.1 t.message.2).run.steps t.collaborators t.state

def result : Except JobError Unit := (t.outcome d).1.value

def left : Collaborators X (StateM σ) × σ := ((t.outcome d).1.collaborators, (t.outcome d).2)

def failed : Bool := !(t.result d).isOk

end Turn

namespace Dispatcher

def afterAll (d : Dispatcher X) :
    List (Event × Option String) → Collaborators X (StateM σ) → σ → Collaborators X (StateM σ) × σ
  | [], k, s => (k, s)
  | m :: ms, k, s =>
    let o := (d.dispatch m.1 m.2).run.run k s
    d.afterAll ms o.1.collaborators o.2

def turns (d : Dispatcher X) :
    List (Event × Option String) → Collaborators X (StateM σ) → σ → List (Turn X σ)
  | [], _, _ => []
  | m :: ms, k, s =>
    let o := (d.dispatch m.1 m.2).run.run k s
    ⟨m, k, s⟩ :: d.turns ms o.1.collaborators o.2

variable (d : Dispatcher X) (ms ns : List (Event × Option String)) (k : Collaborators X (StateM σ))
  (s : σ)

lemma turns_append :
    d.turns (ms ++ ns) k s =
      d.turns ms k s ++ d.turns ns (d.afterAll ms k s).1 (d.afterAll ms k s).2 := by
  induction ms generalizing k s with
  | nil => rfl
  | cons m ms ih => exact congrArg (_ :: ·) (ih _ _)

lemma afterAll_append :
    d.afterAll (ms ++ ns) k s = d.afterAll ns (d.afterAll ms k s).1 (d.afterAll ms k s).2 := by
  induction ms generalizing k s with
  | nil => rfl
  | cons m ms ih => exact ih _ _

lemma turns_split {earlier later : List (Turn X σ)} {t : Turn X σ}
    (h : d.turns ms k s = earlier ++ t :: later) :
    ∃ rest, later = d.turns rest (t.left d).1 (t.left d).2 := by
  induction ms generalizing earlier k s with
  | nil => simp [turns] at h
  | cons m ms ih =>
    cases earlier with
    | nil =>
      obtain ⟨rfl, rfl⟩ := List.cons_eq_cons.mp h
      exact ⟨ms, rfl⟩
    | cons u earlier => exact ih _ _ (List.cons_eq_cons.mp h).2

lemma turns_message : (d.turns ms k s).map Turn.message = ms := by
  induction ms generalizing k s with
  | nil => rfl
  | cons m ms ih => exact congrArg (m :: ·) (ih _ _)

lemma length_turns : (d.turns ms k s).length = ms.length := by
  simpa using congrArg List.length (d.turns_message ms k s)

end Dispatcher

end JobDispatch
