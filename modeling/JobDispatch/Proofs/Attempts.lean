import JobDispatch.Proofs.Turn

namespace JobDispatch

variable {X : Extras} {σ α β : Type}

def Step.attempt? (side : Side) : Step X → Option (Except ForgeError Side)
  | .attempted other outcome _ => if other = side then some outcome else none
  | _ => none

def attempts (side : Side) (ss : List (Step X)) : List (Except ForgeError Side) :=
  ss.filterMap (Step.attempt? side)

lemma attempts_append (side : Side) (ss ss' : List (Step X)) :
    attempts side (ss ++ ss') = attempts side ss ++ attempts side ss' :=
  List.filterMap_append ..

def Served (side : Side) (f : Forge (StateM σ)) (ss : List (Step X)) : Prop :=
  ∀ call answer log, .askedForge side call answer log ∈ ss → ∃ s, (f.ask call s).1 = ⟨answer, log⟩

lemma Served.append {side : Side} {f : Forge (StateM σ)} {ss ss' : List (Step X)}
    (h : Served side f ss) (h' : Served side f ss') : Served side f (ss ++ ss') :=
  fun call answer log hm => (List.mem_append.mp hm).elim (h call answer log) (h' call answer log)

def Unasked (side : Side) (ss : List (Step X)) : Prop :=
  ∀ call answer log, .askedForge side call answer log ∉ ss

lemma Unasked.served {side : Side} {ss : List (Step X)} (h : Unasked side ss)
    (f : Forge (StateM σ)) : Served side f ss :=
  fun call answer log hm => absurd hm (h call answer log)

lemma Unasked.append {side : Side} {ss ss' : List (Step X)} (h : Unasked side ss)
    (h' : Unasked side ss') : Unasked side (ss ++ ss') :=
  fun call answer log hm => (List.mem_append.mp hm).elim (h call answer log) (h' call answer log)

inductive Link.Passes (side : Side) :
    Link (StateM σ) (Forge (StateM σ)) → List (Step X) → Link (StateM σ) (Forge (StateM σ)) → Prop
  | connected {l : Link (StateM σ) (Forge (StateM σ))} {ss : List (Step X)}
      (f : Forge (StateM σ)) : l.forge? = some f → attempts side ss = [] → Served side f ss →
      Passes side l ss l
  | unconnected {l : Link (StateM σ) (Forge (StateM σ))} {ss : List (Step X)} : l.forge? = none →
      (∀ x ∈ attempts side ss, x.isOk = false) → Unasked side ss → Passes side l ss l
  | connects {l : Link (StateM σ) (Forge (StateM σ))} {ss : List (Step X)} (f : Forge (StateM σ))
      (s : σ) (failures : List (Except ForgeError Side)) : l.forge? = none →
      (l.connect s).1.value = .ok f → attempts side ss = failures ++ [.ok f.kind] →
      (∀ x ∈ failures, x.isOk = false) → Served side f ss →
      Passes side l ss { l with forge? := some f }

namespace Link

variable {side : Side} {l l' l'' : Link (StateM σ) (Forge (StateM σ))} {ss ss' : List (Step X)}

lemma passes_of_idle (l : Link (StateM σ) (Forge (StateM σ))) (ha : attempts side ss = [])
    (hq : Unasked side ss) : l.Passes side ss l := by
  cases hf : l.forge? with
  | none => exact .unconnected hf (by simp [ha]) hq
  | some f => exact .connected f hf ha (hq.served f)

lemma Passes.append (h : l.Passes side ss l') (h' : l'.Passes side ss' l'') :
    l.Passes side (ss ++ ss') l'' := by
  -- The link in between is connected or not, which leaves four of the cases.
  cases h with
  | connected f hf ha hs =>
    cases h' with
    | connected f' hf' ha' hs' =>
      obtain rfl : f' = f := Option.some.inj (hf'.symm.trans hf)
      exact .connected f' hf (by rw [attempts_append, ha, ha']; rfl) (hs.append hs')
    | unconnected hf' => simp [hf] at hf'
    | connects _ _ _ hf' => simp [hf] at hf'
  | unconnected hf ha hq =>
    cases h' with
    | connected f' hf' => simp [hf] at hf'
    | unconnected _ ha' hq' =>
      refine .unconnected hf ?_ (hq.append hq')
      rw [attempts_append]
      exact List.forall_mem_append.mpr ⟨ha, ha'⟩
    | connects f s failures _ hc ha' hfail hs' =>
      refine .connects f s (attempts side ss ++ failures) hf hc ?_ ?_ ((hq.served f).append hs')
      · rw [attempts_append, ha', List.append_assoc]
      · exact List.forall_mem_append.mpr ⟨ha, hfail⟩
  | connects f s failures hf hc ha hfail hs =>
    cases h' with
    | connected f' hf' ha' hs' =>
      obtain rfl : f = f' := Option.some.inj hf'
      exact .connects f s failures hf hc (by rw [attempts_append, ha, ha', List.append_nil]) hfail
        (hs.append hs')
    | unconnected hf' => cases hf'
    | connects _ _ _ hf' => cases hf'

lemma Passes.cons (h : l.Passes side ss l') {st : Step X} (ha : st.attempt? side = none)
    (hq : ∀ call answer log, st ≠ .askedForge side call answer log) :
    l.Passes side (st :: ss) l' := by
  have hst : l.Passes side [st] l := by
    refine l.passes_of_idle (by simp [attempts, ha]) fun call answer log hm => ?_
    exact hq call answer log (List.mem_singleton.mp hm).symm
  exact hst.append h

lemma use_passes (l : Link (StateM σ) (Forge (StateM σ))) (side : Side) (s : σ) :
    l.Passes side ((l.use s).1.steps side : List (Step X)) (l.use s).1.link := by
  cases hf : l.forge? with
  | some f =>
    rw [use_of_forge hf]
    exact .connected f hf rfl (by simp [Served, Use.steps])
  | none =>
    rw [use_of_unconnected hf, keep]
    cases hc : (l.connect s).1.value with
    | ok f =>
      refine .connects f s [] hf hc ?_ (by simp) (by simp [Served, Use.steps])
      simp [attempts, Use.steps, Step.attempt?, Except.map]
    | error err =>
      refine .unconnected hf ?_ (by simp [Unasked, Use.steps])
      simp [attempts, Use.steps, Step.attempt?, Except.map]

lemma attempts_use (hf : l.forge? = none) (side : Side) (s : σ) :
    attempts side ((l.use s).1.steps side : List (Step X)) ≠ [] := by
  rw [use_of_unconnected hf, keep]
  cases hc : (l.connect s).1.value <;> simp [attempts, Use.steps, Step.attempt?]

lemma attempts_use_other {other : Side} (ho : other ≠ side) (s : σ) :
    attempts side ((l.use s).1.steps other : List (Step X)) = [] := by
  rw [Use.steps]
  cases (l.use s).1.attempt <;> simp [attempts, Step.attempt?, ho]

lemma forge?_use {s : σ} {f : Forge (StateM σ)} (h : (l.use s).1.result = .ok f) :
    (l.use s).1.link.forge? = some f := by
  cases hf : l.forge? with
  | some f' =>
    rw [use_of_forge hf] at h ⊢
    rw [hf, Except.ok.inj h]
  | none =>
    rw [use_of_unconnected hf, keep] at h ⊢
    cases hc : (l.connect s).1.value with
    | ok f' =>
      simp only [hc, Except.ok.injEq] at h
      rw [h]
    | error err => simp [hc] at h

lemma Passes.forge?_eq_none (h : l.Passes side ss l') (hl : l'.forge? = none) :
    l.forge? = none := by
  cases h with
  | connected | unconnected => exact hl
  | connects => cases hl

lemma ask_passes {other : Side} {f : Forge (StateM σ)} (hf : other = side → l.forge? = some f)
    (call : ForgeCall) (s : σ) :
    l.Passes side ([.askedForge other call (f.ask call s).1.value (f.ask call s).1.log] :
      List (Step X)) l := by
  by_cases ho : other = side
  · subst ho
    refine .connected f (hf rfl) rfl fun call' answer log hm => ?_
    cases List.mem_singleton.mp hm
    exact ⟨s, rfl⟩
  · refine l.passes_of_idle rfl fun call' answer log hm => ?_
    cases List.mem_singleton.mp hm
    exact ho rfl

end Link

namespace Collaborators

variable (k : Collaborators X (StateM σ))

lemma use_passes (side other : Side) (s : σ) :
    let u := ((k.link other).use s).1
    (k.link side).Passes side (u.steps other : List (Step X))
      ((k.setLink other u.link).link side) := by
  intro u
  by_cases ho : other = side
  · subst ho
    rw [link_setLink, if_pos rfl]
    exact (k.link other).use_passes other s
  · rw [link_setLink, if_neg (Ne.symm ho)]
    refine (k.link side).passes_of_idle (Link.attempts_use_other ho s) ?_
    intro call answer log hm
    rw [Use.steps] at hm
    cases hu : u.attempt <;> simp [u, hu] at hm

lemma attempts_use_append_iff (side other : Side) (s : σ) (rest : List (Step X)) (used : Prop)
    (h : attempts side rest ≠ [] ↔
      ((k.setLink other ((k.link other).use s).1.link).link side).forge? = none ∧ used) :
    attempts side (((k.link other).use s).1.steps other ++ rest) ≠ [] ↔
      (k.link side).forge? = none ∧ (other = side ∨ used) := by
  rw [attempts_append]
  constructor
  · intro ha
    by_cases hr : attempts side rest = []
    · -- It is the use that attempts the side, which therefore is the one that is used.
      rw [hr, List.append_nil] at ha
      by_cases ho : other = side
      · subst ho
        cases hf : (k.link other).forge? with
        | none => exact ⟨rfl, .inl rfl⟩
        | some f => simp [Link.use_of_forge hf, Use.steps, attempts] at ha
      · exact absurd (Link.attempts_use_other ho s) ha
    · obtain ⟨hl, hused⟩ := h.mp hr
      exact ⟨(k.use_passes (X := X) side other s).forge?_eq_none hl, .inr hused⟩
  · rintro ⟨hf, hused⟩
    by_cases ho : other = side
    · subst ho
      exact List.append_ne_nil_of_left_ne_nil (Link.attempts_use hf other s) _
    · rw [link_setLink, if_neg (Ne.symm ho)] at h
      have hr := h.mpr ⟨hf, hused.resolve_left ho⟩
      exact List.append_ne_nil_of_right_ne_nil _ hr

end Collaborators

namespace Program

lemma run_passes (p : Program X α) (k : Collaborators X (StateM σ)) (s : σ) (side : Side) :
    (k.link side).Passes side (p.steps k s) ((p.run k s).1.collaborators.link side) := by
  -- A question goes to the forge that the use before it has found, which the link keeps.
  induction p generalizing k s with
  | done a => exact (k.link side).passes_of_idle rfl (by simp [Unasked, steps])
  | log r next ih => exact (ih k s).cons rfl (by simp)
  | reach other next ih =>
    have hu := k.use_passes (X := X) side other s
    simp only [run, steps, stateM_bind, stateM_pure]
    exact hu.append (ih _ _ _)
  | askForge other call next ih =>
    have hu := k.use_passes (X := X) side other s
    have hf := fun f => (k.link other).forge?_use (s := s) (f := f)
    simp only [run, steps, stateM_bind]
    generalize (k.link other).use s = us at hu hf ⊢
    obtain ⟨u, s₁⟩ := us
    cases hr : u.result with
    | error err =>
      simp only [hr]
      exact hu.append (ih _ _ _)
    | ok f =>
      have hl : other = side → ((k.setLink other u.link).link side).forge? = some f := by
        rintro rfl
        rw [k.link_setLink, if_pos rfl]
        exact hf f hr
      simp only [hr]
      exact hu.append ((Link.ask_passes hl call s₁).append (ih _ _ _))
  | askPackaging call next ih => exact (ih _ _ _).cons rfl (by simp)
  | act a next ih => exact (ih _ _ _).cons rfl (by simp)

def Uses (side : Side) : Program X α → Collaborators X (StateM σ) → σ → Prop
  | .done _, _, _ => False
  | .log _ next, k, s => next.Uses side k s
  | .reach other next, k, s =>
    let (u, s) := (k.link other).use s
    other = side ∨ (next (u.result.map Forge.kind)).Uses side (k.setLink other u.link) s
  | .askForge other call next, k, s =>
    let (u, s) := (k.link other).use s
    other = side ∨
      match u.result with
      | .error err => (next (.error err)).Uses side (k.setLink other u.link) s
      | .ok f =>
        let (x, s) := f.ask call s
        (next x.value).Uses side (k.setLink other u.link) s
  | .askPackaging call next, k, s =>
    let (x, s) := k.packaging.ask call s
    (next x.value).Uses side k s
  | .act a next, k, s =>
    let (x, s) := k.act a s
    (next x).Uses side k s

lemma uses_bind (p : Program X α) (f : α → Program X β) (k : Collaborators X (StateM σ)) (s : σ)
    (side : Side) :
    (p.bind f).Uses side k s ↔ p.Uses side k s ∨
      (f (p.run k s).1.value).Uses side (p.run k s).1.collaborators (p.run k s).2 := by
  induction p generalizing k s with
  | done a => simp [bind, Uses, run, stateM_pure]
  | log r next ih => exact ih k s
  | reach other next ih =>
    simp only [bind, Uses, run, stateM_bind, stateM_pure]
    exact (or_congr_right (ih _ _ _)).trans or_assoc.symm
  | askForge other call next ih =>
    simp only [bind, Uses, run, stateM_bind]
    generalize (k.link other).use s = us
    obtain ⟨u, s₁⟩ := us
    cases hu : u.result with
    | error err =>
      simp only [hu]
      exact (or_congr_right (ih _ _ _)).trans or_assoc.symm
    | ok f =>
      simp only [hu]
      exact (or_congr_right (ih _ _ _)).trans or_assoc.symm
  | askPackaging call next ih => exact ih _ _ _
  | act a next ih => exact ih _ _ _

lemma attempts_ne_nil_iff (p : Program X α) (k : Collaborators X (StateM σ)) (s : σ)
    (side : Side) :
    attempts side (p.steps k s) ≠ [] ↔ (k.link side).forge? = none ∧ p.Uses side k s := by
  induction p generalizing k s with
  | done a => simp [steps, Uses, attempts]
  | log r next ih => exact ih k s
  | reach other next ih => exact k.attempts_use_append_iff side other s _ _ (ih _ _ _)
  | askForge other call next ih =>
    have hi := k.attempts_use_append_iff (X := X) side other s
    simp only [steps, Uses]
    generalize (k.link other).use s = us at hi ⊢
    obtain ⟨u, s₁⟩ := us
    cases hu : u.result with
    | error err =>
      simp only [hu]
      exact hi _ _ (ih _ _ _)
    | ok f =>
      simp only [hu]
      exact hi _ _ (ih _ _ _)
  | askPackaging call next ih => exact ih _ _ _
  | act a next ih => exact ih _ _ _

end Program

namespace Dispatcher

variable (d : Dispatcher X) (ms : List (Event × Option String)) (k : Collaborators X (StateM σ))
  (s : σ)

lemma turns_passes (side : Side) :
    (k.link side).Passes side ((d.turns ms k s).flatMap (Turn.steps d))
      ((d.afterAll ms k s).1.link side) := by
  induction ms generalizing k s with
  | nil => exact (k.link side).passes_of_idle rfl (by simp [Unasked, turns])
  | cons m ms ih => exact ((d.dispatch m.1 m.2).run.run_passes k s side).append (ih _ _)

end Dispatcher

end JobDispatch
