import JobDispatch.Handler.Copr
import JobDispatch.Handler.Downstream

namespace JobDispatch

open Log.Record

structure Registry (X : Extras) where
  handler? : JobType → Option (Handler X)

namespace Registry

variable {X : Extras}

def empty : Registry X := ⟨fun _ => none⟩

def insert (r : Registry X) (h : Handler X) : Registry X :=
  ⟨fun j => if j = h.job then some h else r.handler? j⟩

def offer (r : Registry X) (h : Handler X) : Except RegistryError Unit × Registry X :=
  if h.triggers.isEmpty then (.error (.noTriggers h.job), r)
  else if (r.handler? h.job).isSome then (.error (.duplicateHandler h.job), r)
  else (.ok (), r.insert h)

def register (r : Registry X) (h : Handler X) : Except RegistryError (Registry X) :=
  (r.offer h).1.map fun _ => (r.offer h).2

def handlers (r : Registry X) : List (Handler X) :=
  JobType.all.filterMap r.handler?

def served (r : Registry X) : List JobType :=
  JobType.all.filter fun j => (r.handler? j).isSome

def unserved (r : Registry X) : List JobType :=
  JobType.all.filter fun j => !(r.handler? j).isSome

def topics (r : Registry X) : List String :=
  r.handlers.filterMap (·.topic)

def consumes (r : Registry X) (topic : String) : Bool :=
  r.topics.any (· == topic)

def size (r : Registry X) : Nat := r.served.length

def isEmpty (r : Registry X) : Bool := r.served.isEmpty

def inspect (r : Registry X) : String :=
  "HandlerRegistry \x7b job_types: [" ++ String.intercalate ", " (r.served.map JobType.label) ++
    "] \x7d"

def builtins : List (Handler X) :=
  [Handler.syncFromDownstream, Handler.checkDownstream, Handler.proposeDownstream,
    Handler.coprBuild]

def standard : Logged (Except RegistryError (Registry X)) :=
  match builtins.foldlM register empty with
  | .error e => ⟨.error e, []⟩
  | .ok r =>
    ⟨.ok r, r.unserved.map fun j =>
      warn .registry "No handler is registered for job type" [("job", j.name)]⟩

end Registry

end JobDispatch
