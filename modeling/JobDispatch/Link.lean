import JobDispatch.Program

/-! Links: connections that are made on first use and kept. A failed attempt is not kept, so that
the next use tries again. -/

namespace JobDispatch

variable {m : Type → Type} {φ : Type}

structure Link (m : Type → Type) (φ : Type) where
  connect : m (Logged (Except ForgeError φ))
  forge? : Option φ := none

structure Use (m : Type → Type) (φ : Type) where
  result : Except ForgeError φ
  link : Link m φ
  attempt : Option (Except ForgeError Unit) := none
  log : List Log.Record := []

namespace Link

def ready [Pure m] (f : φ) : Link m φ :=
  ⟨pure ⟨.ok f, []⟩, some f⟩

def isConnected (l : Link m φ) : Bool := l.forge?.isSome

def keep (l : Link m φ) (x : Logged (Except ForgeError φ)) : Use m φ :=
  match x.value with
  | .ok f => ⟨.ok f, { l with forge? := some f }, some (.ok ()), x.log⟩
  | .error e => ⟨.error e, l, some (.error e), x.log⟩

def use [Monad m] (l : Link m φ) : m (Use m φ) :=
  match l.forge? with
  | some f => pure ⟨.ok f, l, none, []⟩
  | none => do return l.keep (← l.connect)

def inspect (l : Link m φ) : String :=
  "LazyForge \x7b connected: " ++ toString l.isConnected ++ " \x7d"

end Link

end JobDispatch
