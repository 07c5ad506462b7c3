import JobDispatch.Proofs.Path

/-! What collaborators can answer. A run gets no answers but those, and leaves collaborators that
give no others, so that a fact about the answers is a fact about the steps of every run. -/

namespace JobDispatch

variable {X : Extras} {σ α φ : Type}

structure Answers where
  reach : Side → Except ForgeError Side → Prop := fun _ _ => True
  forge : Side → (call : ForgeCall) → Except ForgeError call.Result → Prop := fun _ _ _ => True
  packaging : (call : PackagingCall) → Except PackagingError call.Result → Prop := fun _ _ => True

def Answers.Allow (A : Answers) : Step X → Prop
  | .logged _ => True
  | .attempted side outcome _ => A.reach side outcome
  | .askedForge side call answer _ => A.forge side call answer
  | .askedPackaging call answer _ => A.packaging call answer
  | .acted _ _ => True

def Link.Gives (l : Link (StateM σ) φ) (x : Except ForgeError φ) : Prop :=
  match l.forge? with
  | some f => x = .ok f
  | none => ∃ s, (l.connect s).1.value = x

structure Collaborators.Keep (A : Answers) (k : Collaborators X (StateM σ)) : Prop where
  reach : ∀ side x, (k.link side).Gives x → A.reach side (x.map Forge.kind)
  forge : ∀ side f call s, (k.link side).Gives (.ok f) → A.forge side call (f.ask call s).1.value
  packaging : ∀ call s, A.packaging call (k.packaging.ask call s).1.value

namespace Link

lemma gives_use (l : Link (StateM σ) φ) (s : σ) : l.Gives (l.use s).1.result := by
  cases hf : l.forge? with
  | some f => simp [Gives, use_of_forge hf, hf]
  | none =>
    simp only [Gives, use_of_unconnected hf, hf]
    refine ⟨s, ?_⟩
    cases hx : (l.connect s).1.value <;> simp [keep, hx]

lemma gives_of_use {l : Link (StateM σ) φ} {s : σ} {x : Except ForgeError φ}
    (h : (l.use s).1.link.Gives x) : l.Gives x := by
  cases hf : l.forge? with
  | some f => simpa [use_of_forge hf] using h
  | none =>
    have hl := l.gives_use s
    simp only [use_of_unconnected hf] at h hl
    cases hx : (l.connect s).1.value with
    | ok f =>
      obtain rfl : x = .ok f := by simpa [keep, hx, Gives] using h
      simpa [keep, hx] using hl
    | error err => simpa [keep, hx] using h

end Link

namespace Collaborators

variable {A : Answers} {k : Collaborators X (StateM σ)}

@[simp] lemma packaging_setLink (k : Collaborators X (StateM σ)) (side : Side)
    (l : Link (StateM σ) (Forge (StateM σ))) : (k.setLink side l).packaging = k.packaging := by
  cases side <;> rfl

lemma Keep.setLink (h : k.Keep A) {side : Side} {l : Link (StateM σ) (Forge (StateM σ))}
    (hl : ∀ x, l.Gives x → (k.link side).Gives x) : (k.setLink side l).Keep A := by
  have hg : ∀ other x, ((k.setLink side l).link other).Gives x → (k.link other).Gives x := by
    intro other x hx
    rw [link_setLink] at hx
    split_ifs at hx with ho
    · exact ho ▸ hl x hx
    · exact hx
  refine ⟨?_, ?_, ?_⟩
  · exact fun other x hx => h.reach other x (hg other x hx)
  · exact fun other f call s hf => h.forge other f call s (hg other _ hf)
  · rw [packaging_setLink]
    exact h.packaging

lemma Keep.use (h : k.Keep A) (side : Side) (s : σ) :
    (k.setLink side ((k.link side).use s).1.link).Keep A :=
  h.setLink fun _ => Link.gives_of_use

lemma Keep.contact (h : k.Keep A) {side kind : Side} (hc : k.contacts side = some kind) :
    A.reach side (.ok kind) := by
  obtain ⟨f, hf, rfl⟩ := Option.map_eq_some_iff.mp hc
  exact h.reach side (.ok f) (by simp [Link.Gives, hf])

lemma Keep.allow_use (h : k.Keep A) (side : Side) (s : σ) :
    ∀ st ∈ (((k.link side).use s).1.steps side : List (Step X)), A.Allow st := by
  intro st hst
  have hr := h.reach side _ ((k.link side).gives_use s)
  rw [Use.steps] at hst
  split at hst
  · obtain rfl := List.mem_singleton.mp hst
    exact hr
  · simp at hst

end Collaborators

lemma Reaches.allowed {A : Answers} {κ κ' : Contacts} {side : Side} {ss : List (Step X)}
    {x : Except ForgeError Side} (h : Reaches κ side ss x κ')
    (hκ : ∀ kind, κ side = some kind → A.reach side (.ok kind)) (hs : ∀ st ∈ ss, A.Allow st) :
    A.reach side x := by
  cases h with
  | connected hc => exact hκ _ hc
  | connects kind log => exact hs _ (List.mem_singleton_self _)
  | fails err log => exact hs _ (List.mem_singleton_self _)

lemma Program.steps_allowed {A : Answers} (p : Program X α) {k : Collaborators X (StateM σ)}
    (h : k.Keep A) (s : σ) :
    (∀ st ∈ p.steps k s, A.Allow st) ∧ (p.run k s).1.collaborators.Keep A := by
  induction p generalizing k s with
  | done a => exact ⟨by simp [steps], h⟩
  | log r next ih =>
    obtain ⟨hs, hk⟩ := ih h s
    exact ⟨List.forall_mem_cons.mpr ⟨trivial, hs⟩, hk⟩
  | reach side next ih =>
    have hu := h.use side s
    have ha := h.allow_use side s
    simp only [run, steps, stateM_bind, stateM_pure]
    generalize (k.link side).use s = us at hu ha ⊢
    obtain ⟨u, s₁⟩ := us
    obtain ⟨hs, hk⟩ := ih (u.result.map Forge.kind) hu s₁
    exact ⟨List.forall_mem_append.mpr ⟨ha, hs⟩, hk⟩
  | askForge side call next ih =>
    have hu := h.use side s
    have ha := h.allow_use side s
    have hg := (k.link side).gives_use s
    simp only [run, steps, stateM_bind]
    generalize (k.link side).use s = us at hu ha hg ⊢
    obtain ⟨u, s₁⟩ := us
    cases hf : u.result with
    | error err =>
      obtain ⟨hs, hk⟩ := ih (.error err) hu s₁
      simp only [hf]
      exact ⟨List.forall_mem_append.mpr ⟨ha, hs⟩, hk⟩
    | ok f =>
      obtain ⟨hs, hk⟩ := ih (f.ask call s₁).1.value hu (f.ask call s₁).2
      have hx : A.forge side call (f.ask call s₁).1.value := h.forge side f call s₁ (hf ▸ hg)
      simp only [hf]
      refine ⟨List.forall_mem_append.mpr ⟨ha, ?_⟩, hk⟩
      exact List.forall_mem_cons.mpr ⟨hx, hs⟩
  | askPackaging call next ih =>
    obtain ⟨hs, hk⟩ := ih (k.packaging.ask call s).1.value h (k.packaging.ask call s).2
    exact ⟨List.forall_mem_cons.mpr ⟨h.packaging call s, hs⟩, hk⟩
  | act a next ih =>
    obtain ⟨hs, hk⟩ := ih (k.act a s).1 h (k.act a s).2
    exact ⟨List.forall_mem_cons.mpr ⟨trivial, hs⟩, hk⟩

def Answers.Known (A : Answers) (κ : Contacts) : Prop :=
  ∀ side kind, κ side = some kind → A.reach side (.ok kind)

lemma Reaches.known {A : Answers} {κ κ' : Contacts} {side : Side} {ss : List (Step X)}
    {x : Except ForgeError Side} (h : Reaches κ side ss x κ') (hκ : A.Known κ)
    (hs : ∀ st ∈ ss, A.Allow st) : A.Known κ' := by
  cases h with
  | connected => exact hκ
  | connects kind log =>
    intro other kind' hk
    rw [Function.update_apply] at hk
    split_ifs at hk with ho
    · obtain rfl := Option.some.inj hk
      exact ho ▸ hs _ (List.mem_singleton_self _)
    · exact hκ other kind' hk
  | fails => exact hκ

lemma Program.Path.known {A : Answers} {p : Program X α} {κ κ' : Contacts} {ss : List (Step X)}
    {a : α} (h : Path κ p ss a κ') (hκ : A.Known κ) (hs : ∀ st ∈ ss, A.Allow st) : A.Known κ' := by
  induction h with
  | done => exact hκ
  | log _ ih => exact ih hκ fun st hm => hs st (List.mem_cons_of_mem _ hm)
  | reach hr _ ih | unreached hr _ ih =>
    rw [List.forall_mem_append] at hs
    exact ih (hr.known hκ hs.1) hs.2
  | askForge _ _ hr _ ih =>
    rw [List.forall_mem_append] at hs
    exact ih (hr.known hκ hs.1) fun st hm => hs.2 st (List.mem_cons_of_mem _ hm)
  | askPackaging _ _ _ ih | act _ _ ih =>
    exact ih hκ fun st hm => hs st (List.mem_cons_of_mem _ hm)

end JobDispatch
