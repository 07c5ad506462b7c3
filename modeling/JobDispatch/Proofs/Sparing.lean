import JobDispatch.Proofs.Answers
import JobDispatch.Proofs.Origin

/-! Sparing a side. A program that does not use the link on a side runs in the same way whatever
this link is. It may spare the side only up to a certain answer of the packaging service, and then
this holds of the runs that do not get such an answer. -/

namespace JobDispatch

variable {X : Extras} {σ α β : Type}

def Step.side? : Step X → Option Side
  | .attempted side .. | .askedForge side .. => some side
  | .logged _ | .askedPackaging .. | .acted .. => none

abbrev PackagingAnswer := (call : PackagingCall) → Except PackagingError call.Result → Prop

namespace Program

/-- Until an answer in `Q`, the side is not used. If there is none, the result is in `P`. -/
def Spares (Q : PackagingAnswer) (side : Side) (P : α → Prop) : Program X α → Prop
  | .done a => P a
  | .log _ next => next.Spares Q side P
  | .reach other next => other ≠ side ∧ ∀ x, (next x).Spares Q side P
  | .askForge other _ next => other ≠ side ∧ ∀ x, (next x).Spares Q side P
  | .askPackaging call next => ∀ x, Q call x ∨ (next x).Spares Q side P
  | .act _ next => ∀ x, (next x).Spares Q side P

variable {Q : PackagingAnswer} {side : Side}

lemma Spares.bind {p : Program X α} {f : α → Program X β} {P : β → Prop}
    (h : p.Spares Q side fun a => (f a).Spares Q side P) : (p.bind f).Spares Q side P := by
  induction p with
  | done a => exact h
  | log r next ih => exact ih h
  | reach other next ih => exact ⟨h.1, fun x => ih x (h.2 x)⟩
  | askForge other call next ih => exact ⟨h.1, fun x => ih x (h.2 x)⟩
  | askPackaging call next ih => exact fun x => (h x).imp_right (ih x)
  | act a next ih => exact fun x => ih x (h x)

lemma Spares.imp {p : Program X α} {P P' : α → Prop} (h : p.Spares Q side P)
    (hP : ∀ a, P a → P' a) : p.Spares Q side P' := by
  induction p with
  | done a => exact hP a h
  | log r next ih => exact ih h
  | reach other next ih => exact ⟨h.1, fun x => ih x (h.2 x)⟩
  | askForge other call next ih => exact ⟨h.1, fun x => ih x (h.2 x)⟩
  | askPackaging call next ih => exact fun x => (h x).imp_right (ih x)
  | act a next ih => exact fun x => ih x (h x)

lemma spares_write {rs : List Log.Record} {P : Unit → Prop} (h : P ()) :
    (write rs : Program X Unit).Spares Q side P := by
  induction rs with
  | nil => exact h
  | cons r rs ih => exact ih

lemma Spares.answered {p : Program X α} {P : α → Prop} {κ κ' : Contacts}
    {ss before after : List (Step X)} {a : α} {s : Step X} (h : p.Spares Q side P)
    (hp : Path κ p ss a κ') (hs : ss = before ++ s :: after) (hside : s.side? = some side) :
    ∃ call x log, .askedPackaging call x log ∈ before ∧ Q call x := by
  have hreach : ∀ {κ κ' : Contacts} {other : Side} {rs : List (Step X)}
      {x : Except ForgeError Side}, other ≠ side → Reaches κ other rs x κ' → s ∉ rs := by
    rintro κ κ' other rs x ho hr hm
    obtain ⟨outcome, log, rfl⟩ := hr.attempted hm
    exact ho (Option.some.inj hside)
  induction hp generalizing before with
  | done => simp at hs
  | log _ ih =>
    obtain ⟨since, rfl, hx⟩ := cons_eq_split hs (by rintro rfl; cases hside)
    obtain ⟨call, x, log, hm, hq⟩ := ih h hx
    exact ⟨call, x, log, List.mem_cons_of_mem _ hm, hq⟩
  | reach hr _ ih =>
    rcases append_eq_split hs with ⟨rest, rfl⟩ | ⟨since, rfl, hx⟩
    · exact absurd (List.mem_append_right before (List.mem_cons_self ..)) (hreach h.1 hr)
    · obtain ⟨call, x, log, hm, hq⟩ := ih (h.2 _) hx
      exact ⟨call, x, log, List.mem_append_right _ hm, hq⟩
  | unreached hr _ ih =>
    rcases append_eq_split hs with ⟨rest, rfl⟩ | ⟨since, rfl, hx⟩
    · exact absurd (List.mem_append_right before (List.mem_cons_self ..)) (hreach h.1 hr)
    · obtain ⟨call, x, log, hm, hq⟩ := ih (h.2 _) hx
      exact ⟨call, x, log, List.mem_append_right _ hm, hq⟩
  | askForge _ _ hr _ ih =>
    rcases append_eq_split hs with ⟨rest, rfl⟩ | ⟨since, rfl, hx⟩
    · exact absurd (List.mem_append_right before (List.mem_cons_self ..)) (hreach h.1 hr)
    · obtain ⟨later, rfl, hy⟩ :=
        cons_eq_split hx (by rintro rfl; exact h.1 (Option.some.inj hside))
      obtain ⟨call, x, log, hm, hq⟩ := ih (h.2 _) hy
      exact ⟨call, x, log, List.mem_append_right _ (List.mem_cons_of_mem _ hm), hq⟩
  | @askPackaging _ _ call _ _ x log _ _ ih =>
    obtain ⟨since, rfl, hx⟩ := cons_eq_split hs (by rintro rfl; cases hside)
    rcases h x with hq | h
    · exact ⟨call, x, log, List.mem_cons_self .., hq⟩
    · obtain ⟨call, x, log, hm, hq⟩ := ih h hx
      exact ⟨call, x, log, List.mem_cons_of_mem _ hm, hq⟩
  | act x _ ih =>
    obtain ⟨since, rfl, hx⟩ := cons_eq_split hs (by rintro rfl; cases hside)
    obtain ⟨call, x, log, hm, hq⟩ := ih (h x) hx
    exact ⟨call, x, log, List.mem_cons_of_mem _ hm, hq⟩

end Program

namespace Collaborators

@[simp] lemma act_setLink (k : Collaborators X (StateM σ)) (side : Side)
    (l : Link (StateM σ) (Forge (StateM σ))) : (k.setLink side l).act = k.act := by
  cases side <;> rfl

lemma setLink_comm (k : Collaborators X (StateM σ)) {side other : Side} (h : other ≠ side)
    (l l' : Link (StateM σ) (Forge (StateM σ))) :
    (k.setLink side l).setLink other l' = (k.setLink other l').setLink side l := by
  cases side <;> cases other <;> first | rfl | exact absurd rfl h

lemma setLink_link (k : Collaborators X (StateM σ)) (side : Side) :
    k.setLink side (k.link side) = k := by
  cases side <;> rfl

end Collaborators

def Outcome.withLink (o : Outcome X (StateM σ) α) (side : Side)
    (l : Link (StateM σ) (Forge (StateM σ))) : Outcome X (StateM σ) α :=
  { o with collaborators := o.collaborators.setLink side l }

lemma Program.Spares.run_setLink {Q : PackagingAnswer} {side : Side} {p : Program X α}
    {P : α → Prop} (h : p.Spares Q side P) {k : Collaborators X (StateM σ)} {s : σ}
    (hq : ∀ call x log, .askedPackaging call x log ∈ p.steps k s → ¬ Q call x)
    (l : Link (StateM σ) (Forge (StateM σ))) :
    p.run (k.setLink side l) s = ((p.run k s).1.withLink side l, (p.run k s).2) := by
  -- The steps of one run decide for both: up to an answer in `Q` only the other link is used, and
  -- to set the two links commutes.
  induction p generalizing k s with
  | done a => rfl
  | log r next ih =>
    have hrun := ih h fun call x log hm => hq call x log (List.mem_cons_of_mem _ hm)
    simp only [run, stateM_bind, stateM_pure, hrun]
    rfl
  | reach other next ih =>
    simp only [run, steps, stateM_bind, stateM_pure, Collaborators.link_setLink, h.1, if_false,
      k.setLink_comm h.1] at hq ⊢
    generalize (k.link other).use s = us at hq ⊢
    obtain ⟨u, s₁⟩ := us
    have hrun := ih _ (h.2 _) fun call x log hm => hq call x log (List.mem_append_right _ hm)
    simp only [hrun]
    rfl
  | askForge other call next ih =>
    simp only [run, steps, stateM_bind, Collaborators.link_setLink, h.1, if_false,
      k.setLink_comm h.1] at hq ⊢
    generalize (k.link other).use s = us at hq ⊢
    obtain ⟨u, s₁⟩ := us
    cases hu : u.result with
    | error err =>
      simp only [hu, stateM_bind, stateM_pure] at hq ⊢
      have hrun := ih _ (h.2 _) fun call x log hm => hq call x log (List.mem_append_right _ hm)
      simp only [hrun]
      rfl
    | ok f =>
      simp only [hu, stateM_bind, stateM_pure] at hq ⊢
      have hrun := ih _ (h.2 _) fun call x log hm =>
        hq call x log (List.mem_append_right _ (List.mem_cons_of_mem _ hm))
      simp only [hrun]
      rfl
  | askPackaging call next ih =>
    simp only [run, stateM_bind, stateM_pure, Collaborators.packaging_setLink]
    have hnext := (h (k.packaging.ask call s).1.value).resolve_left
      (hq call _ _ (List.mem_cons_self ..))
    have hrun := ih _ hnext fun call x log hm => hq call x log (List.mem_cons_of_mem _ hm)
    simp only [hrun]
    rfl
  | act a next ih =>
    simp only [run, stateM_bind, stateM_pure, Collaborators.act_setLink]
    have hrun := ih _ (h (k.act a s).1) fun call x log hm =>
      hq call x log (List.mem_cons_of_mem _ hm)
    simp only [hrun]
    rfl

lemma Program.Spares.link_eq {Q : PackagingAnswer} {side : Side} {p : Program X α}
    {P : α → Prop} (h : p.Spares Q side P) {k : Collaborators X (StateM σ)} {s : σ}
    (hq : ∀ call x log, .askedPackaging call x log ∈ p.steps k s → ¬ Q call x) :
    (p.run k s).1.collaborators.link side = k.link side := by
  have hrun := h.run_setLink hq (k.link side)
  rw [k.setLink_link] at hrun
  rw [congrArg Prod.fst hrun]
  simp [Outcome.withLink, Collaborators.link_setLink]

namespace Job

def Spares (Q : PackagingAnswer) (side : Side) (P : α → Prop) (j : Job X α) : Prop :=
  j.run.Spares Q side fun
    | .ok a => P a
    | .error _ => True

variable {Q : PackagingAnswer} {side other : Side}

lemma Spares.bind {j : Job X α} {f : α → Job X β} {P : β → Prop}
    (h : j.Spares Q side fun a => (f a).Spares Q side P) : (j >>= f).Spares Q side P := by
  rw [Spares, ExceptT.run_bind, Program.bind_eq]
  refine Program.Spares.bind (Program.Spares.imp h ?_)
  rintro (err | a) ha
  · trivial
  · exact ha

lemma Spares.seq {j : Job X α} {f : α → Job X β} {P : β → Prop}
    (hj : j.Spares Q side fun _ => True) (hf : ∀ a, (f a).Spares Q side P) :
    (j >>= f).Spares Q side P := by
  refine .bind (Program.Spares.imp hj ?_)
  rintro (err | a) -
  · trivial
  · exact hf a

lemma spares_pure {a : α} {P : α → Prop} (h : P a) :
    (pure a : Job X α).Spares Q side P := h

lemma spares_fail {err : JobError} {P : α → Prop} :
    (fail err : Job X α).Spares Q side P := trivial

lemma spares_log {rec : Log.Record} {P : Unit → Prop} (h : P ()) :
    (log rec : Job X Unit).Spares Q side P := h

lemma spares_tell {x : Logged α} {P : α → Prop} (h : P x.value) :
    (tell x : Job X α).Spares Q side P :=
  Program.Spares.bind (Program.Spares.bind (Program.spares_write h))

lemma spares_reach {P : Side → Prop} (ho : other ≠ side) (h : ∀ kind, P kind) :
    (reach other : Job X Side).Spares Q side P := by
  refine ⟨ho, ?_⟩
  rintro (err | kind)
  · trivial
  · exact h kind

lemma spares_askForge {call : ForgeCall} {P : call.Result → Prop} (ho : other ≠ side)
    (h : ∀ a, P a) : (askForge other call : Job X call.Result).Spares Q side P := by
  refine ⟨ho, ?_⟩
  rintro (err | a)
  · trivial
  · exact h a

lemma spares_askPackaging {call : PackagingCall} {P : call.Result → Prop}
    (h : ∀ a, Q call (.ok a) ∨ P a) :
    (askPackaging call : Job X call.Result).Spares Q side P := by
  rintro (err | a)
  · exact .inr trivial
  · exact h a

end Job

end JobDispatch
