import JobDispatch.Proofs.Answers

/-! Trails: steps that lead from one state of the collaborators to another. What a step does to the
state is known of the collaborators, so that what a run does to it is known from its steps. -/

namespace JobDispatch

variable {X : Extras} {σ τ α : Type}

inductive Trail (R : σ → Step X → σ → Prop) : σ → List (Step X) → σ → Prop
  | nil (s : σ) : Trail R s [] s
  | cons {s s₁ s' : σ} {st : Step X} {ss : List (Step X)} :
      R s st s₁ → Trail R s₁ ss s' → Trail R s (st :: ss) s'

namespace Trail

variable {R : σ → Step X → σ → Prop} {s s' : σ} {st : Step X} {ss ss' : List (Step X)}

lemma nil_iff : Trail R s [] s' ↔ s' = s := by
  constructor
  · rintro ⟨⟩
    rfl
  · rintro rfl
    exact .nil _

lemma cons_iff : Trail R s (st :: ss) s' ↔ ∃ s₁, R s st s₁ ∧ Trail R s₁ ss s' := by
  constructor
  · rintro ⟨⟩
    exact ⟨_, ‹_›, ‹_›⟩
  · rintro ⟨s₁, hr, ht⟩
    exact .cons hr ht

lemma append_iff : Trail R s (ss ++ ss') s' ↔ ∃ s₁, Trail R s ss s₁ ∧ Trail R s₁ ss' s' := by
  induction ss generalizing s with
  | nil => simp [nil_iff]
  | cons st ss ih =>
    simp only [List.cons_append, cons_iff, ih]
    constructor
    · rintro ⟨s₁, hr, s₂, h₁, h₂⟩
      exact ⟨s₂, ⟨s₁, hr, h₁⟩, h₂⟩
    · rintro ⟨s₂, ⟨s₁, hr, h₁⟩, h₂⟩
      exact ⟨s₁, hr, s₂, h₁, h₂⟩

lemma map {R' : τ → Step X → τ → Prop} {f : σ → τ} (hf : ∀ s st s', R s st s' → R' (f s) st (f s'))
    (h : Trail R s ss s') : Trail R' (f s) ss (f s') := by
  induction h with
  | nil => exact .nil _
  | cons hr _ ih => exact .cons (hf _ _ _ hr) ih

end Trail

structure Collaborators.Obey (R : σ → Step X → σ → Prop) (k : Collaborators X (StateM σ)) :
    Prop where
  logged : ∀ s rec, R s (.logged rec) s
  attempt : ∀ side s,
    let x := (k.link side).connect s
    R s (.attempted side (x.1.value.map Forge.kind) x.1.log) x.2
  forge : ∀ side f call s, (k.link side).Gives (.ok f) →
    let x := f.ask call s
    R s (.askedForge side call x.1.value x.1.log) x.2
  packaging : ∀ call s,
    let x := k.packaging.ask call s
    R s (.askedPackaging call x.1.value x.1.log) x.2
  act : ∀ a s, R s (.acted a (k.act a s).1) (k.act a s).2

namespace Collaborators

variable {R : σ → Step X → σ → Prop} {k : Collaborators X (StateM σ)}

lemma connect_use (l : Link (StateM σ) (Forge (StateM σ))) (s : σ) :
    (l.use s).1.link.connect = l.connect := by
  cases hf : l.forge? with
  | some f => rw [Link.use_of_forge hf]
  | none =>
    rw [Link.use_of_unconnected hf]
    cases hx : (l.connect s).1.value <;> simp [Link.keep, hx]

lemma Obey.use (h : k.Obey R) (side : Side) (s : σ) :
    (k.setLink side ((k.link side).use s).1.link).Obey R := by
  refine ⟨h.logged, ?_, ?_, ?_, ?_⟩
  · intro other t
    have hc : ((k.setLink side ((k.link side).use s).1.link).link other).connect =
        (k.link other).connect := by
      rw [link_setLink]
      split_ifs with ho
      · rw [connect_use, ho]
      · rfl
    rw [hc]
    exact h.attempt other t
  · intro other f call t hf
    refine h.forge other f call t ?_
    rw [link_setLink] at hf
    split_ifs at hf with ho
    · rw [ho]
      exact Link.gives_of_use hf
    · exact hf
  · rw [packaging_setLink]
    exact h.packaging
  · intro a t
    cases side <;> exact h.act a t

lemma Obey.trail_use (h : k.Obey R) (side : Side) (s : σ) :
    Trail R s (((k.link side).use s).1.steps side) ((k.link side).use s).2 := by
  cases hf : (k.link side).forge? with
  | some f =>
    rw [Link.use_of_forge hf]
    exact .nil s
  | none =>
    rw [Link.use_of_unconnected hf]
    have ha := h.attempt side s
    cases hx : ((k.link side).connect s).1.value <;>
      · simp only [hx] at ha
        simp only [Link.keep, hx, Use.steps]
        exact .cons ha (.nil _)

end Collaborators

lemma Program.steps_trail {R : σ → Step X → σ → Prop} (p : Program X α)
    {k : Collaborators X (StateM σ)} (h : k.Obey R) (s : σ) :
    Trail R s (p.steps k s) (p.run k s).2 := by
  induction p generalizing k s with
  | done a => exact .nil s
  | log r next ih => exact .cons (h.logged s r) (ih h s)
  | reach side next ih =>
    have hu := h.use side s
    have ht := h.trail_use side s
    simp only [run, steps, stateM_bind, stateM_pure]
    generalize (k.link side).use s = us at hu ht ⊢
    obtain ⟨u, s₁⟩ := us
    exact Trail.append_iff.mpr ⟨s₁, ht, ih _ hu s₁⟩
  | askForge side call next ih =>
    have hu := h.use side s
    have ht := h.trail_use side s
    have hg := (k.link side).gives_use s
    simp only [run, steps, stateM_bind]
    generalize (k.link side).use s = us at hu ht hg ⊢
    obtain ⟨u, s₁⟩ := us
    cases hf : u.result with
    | error err =>
      simp only [hf]
      exact Trail.append_iff.mpr ⟨s₁, ht, ih _ hu s₁⟩
    | ok f =>
      have hx := h.forge side f call s₁ (hf ▸ hg)
      simp only [hf]
      exact Trail.append_iff.mpr ⟨s₁, ht, .cons hx (ih _ hu _)⟩
  | askPackaging call next ih => exact .cons (h.packaging call s) (ih _ h _)
  | act a next ih => exact .cons (h.act a s) (ih _ h _)

end JobDispatch
