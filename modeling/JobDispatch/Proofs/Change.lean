import JobDispatch.Proofs.Run

/-! Runs in another monad. What the collaborators do in one monad can be told in another, and a run
with the collaborators so told is the run as it was, told in the other monad. -/

namespace JobDispatch

structure Change (m n : Type → Type) [Monad m] [Monad n] where
  of : {α : Type} → m α → n α
  of_pure : ∀ {α : Type} (a : α), of (pure a : m α) = pure a
  of_bind : ∀ {α β : Type} (x : m α) (f : α → m β), of (x >>= f) = of x >>= fun a => of (f a)

def Change.pairing (τ ω : Type) : Change (StateT τ (StateM ω)) (StateM (τ × ω)) where
  of x s :=
    let ((a, t), w) := x s.1 s.2
    (a, (t, w))
  of_pure _ := rfl
  of_bind _ _ := rfl

variable {X : Extras} {m n : Type → Type} [Monad m] [Monad n] (F : Change m n)

def Forge.change (f : Forge m) : Forge n := ⟨f.kind, fun call => F.of (f.ask call)⟩

def Link.change (l : Link m (Forge m)) : Link n (Forge n) where
  connect := (·.map (·.map (Forge.change F))) <$> F.of l.connect
  forge? := l.forge?.map (Forge.change F)

def Use.change (u : Use m (Forge m)) : Use n (Forge n) :=
  ⟨u.result.map (Forge.change F), u.link.change F, u.attempt, u.log⟩

def Collaborators.change (k : Collaborators X m) : Collaborators X n where
  upstream := k.upstream.change F
  downstream := k.downstream.change F
  packaging := ⟨fun call => F.of (k.packaging.ask call)⟩
  act a := F.of (k.act a)

def Outcome.change {α : Type} (o : Outcome X m α) : Outcome X n α :=
  ⟨o.value, o.collaborators.change F, o.transcript⟩

namespace Collaborators

variable (k : Collaborators X m) (side : Side)

lemma link_change : (k.change F).link side = (k.link side).change F := by
  cases side <;> rfl

lemma setLink_change (l : Link m (Forge m)) :
    (k.change F).setLink side (l.change F) = (k.setLink side l).change F := by
  cases side <;> rfl

end Collaborators

lemma Link.keep_change (l : Link m (Forge m)) (x : Logged (Except ForgeError (Forge m))) :
    (l.change F).keep (x.map (·.map (Forge.change F))) = (l.keep x).change F := by
  obtain ⟨value, log⟩ := x
  cases value <;> rfl

variable [LawfulMonad n]

lemma Link.use_change (l : Link m (Forge m)) :
    (l.change F).use = Use.change F <$> F.of l.use := by
  cases hf : l.forge? with
  | some f =>
    simp only [use, hf, change, Option.map_some, F.of_pure, map_pure, Use.change, Except.map]
  | none =>
    have hc : (l.change F).forge? = none := by simp [change, hf]
    simp only [use, hf, hc, F.of_bind, F.of_pure, map_bind, map_pure]
    simp only [change, bind_map_left]
    apply bind_congr
    intro x
    exact congrArg pure (l.keep_change F x)

lemma Program.run_change {α : Type} (p : Program X α) (k : Collaborators X m) :
    p.run (k.change F) = Outcome.change F <$> F.of (p.run k) := by
  induction p generalizing k with
  | done a => simp [run, F.of_pure, Outcome.change]
  | log r next ih =>
    simp only [run, ih, F.of_bind, F.of_pure, map_bind, map_pure, bind_map_left]
    rfl
  | reach side next ih =>
    simp only [run, k.link_change, Link.use_change, F.of_bind, F.of_pure, map_bind, map_pure,
      bind_map_left]
    apply bind_congr
    intro u
    have hk : (u.result.map (Forge.change F)).map Forge.kind = u.result.map Forge.kind := by
      cases u.result <;> rfl
    simp only [Use.change, hk, k.setLink_change, ih, bind_map_left]
    rfl
  | askForge side call next ih =>
    simp only [run, k.link_change, Link.use_change, F.of_bind, map_bind, bind_map_left]
    apply bind_congr
    intro u
    cases hu : u.result with
    | error err | ok f =>
      simp only [Use.change, hu, Except.map, k.setLink_change, ih, F.of_bind, F.of_pure, map_bind,
        map_pure, bind_map_left]
      rfl
  | askPackaging call next ih =>
    simp only [run, ih, F.of_bind, F.of_pure, map_bind, map_pure, bind_map_left]
    rfl
  | act a next ih =>
    simp only [run, ih, F.of_bind, F.of_pure, map_bind, map_pure, bind_map_left]
    rfl

end JobDispatch
