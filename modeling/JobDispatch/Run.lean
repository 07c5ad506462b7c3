import JobDispatch.Dispatch
import JobDispatch.Link

/-! Runs of programs. The collaborators answer in a monad of their own, and a run gives the result
of the program, the collaborators after it, and a transcript. -/

namespace JobDispatch

structure Forge (m : Type → Type) where
  kind : Side
  ask : (call : ForgeCall) → m (Logged (Except ForgeError call.Result))

structure Packaging (m : Type → Type) where
  ask : (call : PackagingCall) → m (Logged (Except PackagingError call.Result))

structure Collaborators (X : Extras) (m : Type → Type) where
  upstream : Link m (Forge m)
  downstream : Link m (Forge m)
  packaging : Packaging m
  act : (a : X.Act) → m (X.Answer a)

inductive Entry (X : Extras)
  | logged (r : Log.Record)
  | attempted (side : Side) (outcome : Except ForgeError Unit)
  | askedForge (side : Side) (call : ForgeCall)
  | askedPackaging (call : PackagingCall)
  | acted (a : X.Act)

structure Outcome (X : Extras) (m : Type → Type) (α : Type) where
  value : α
  collaborators : Collaborators X m
  transcript : List (Entry X)

variable {X : Extras} {m : Type → Type} {α : Type}

namespace Collaborators

def link (c : Collaborators X m) : Side → Link m (Forge m)
  | .upstream => c.upstream
  | .downstream => c.downstream

def setLink (c : Collaborators X m) (side : Side) (l : Link m (Forge m)) : Collaborators X m :=
  match side with
  | .upstream => { c with upstream := l }
  | .downstream => { c with downstream := l }

end Collaborators

def Use.entries {φ : Type} (u : Use m φ) (side : Side) : List (Entry X) :=
  (u.attempt.map (Entry.attempted side)).toList ++ u.log.map .logged

def Outcome.after (o : Outcome X m α) (es : List (Entry X)) : Outcome X m α :=
  { o with transcript := es ++ o.transcript }

/-- Runs a program. A forge that is asked before it was reached is reached first. -/
def Program.run [Monad m] : Program X α → Collaborators X m → m (Outcome X m α)
  | .done a, c => pure ⟨a, c, []⟩
  | .log r next, c => do
    let o ← next.run c
    return o.after [.logged r]
  | .reach side next, c => do
    let u ← (c.link side).use
    let o ← (next (u.result.map Forge.kind)).run (c.setLink side u.link)
    return o.after (u.entries side)
  | .askForge side call next, c => do
    let u ← (c.link side).use
    match u.result with
    | .error e =>
      let o ← (next (.error e)).run (c.setLink side u.link)
      return o.after (u.entries side)
    | .ok f =>
      let x ← f.ask call
      let o ← (next x.value).run (c.setLink side u.link)
      return o.after (u.entries side ++ .askedForge side call :: x.log.map .logged)
  | .askPackaging call next, c => do
    let x ← c.packaging.ask call
    let o ← (next x.value).run c
    return o.after (.askedPackaging call :: x.log.map .logged)
  | .act a next, c => do
    let x ← c.act a
    let o ← (next x).run c
    return o.after [.acted a]

def Outcome.log (o : Outcome X m α) : List Log.Record :=
  o.transcript.filterMap fun
    | .logged r => some r
    | _ => none

def Dispatcher.inspect (d : Dispatcher X) (c : Collaborators X m) : String :=
  "Dispatcher \x7b config: ServiceConfig \x7b upstream_branch: " ++
    Text.quoted d.config.upstreamBranch ++ " \x7d, registry: " ++ d.registry.inspect ++
    ", upstream: " ++ c.upstream.inspect ++ ", downstream: " ++ c.downstream.inspect ++ ", .. \x7d"

end JobDispatch
