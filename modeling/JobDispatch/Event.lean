import JobDispatch.Json.Value

/-! Events as they arrive: JSON of any shape. An accessor finds nothing where a key is missing or a
value on the way is no object. -/

namespace JobDispatch

def nonempty? (s : String) : Option String :=
  if s.isEmpty then none else some s

structure Event where
  payload : Json

namespace Event

def at? (e : Event) (path : List String) : Option Json :=
  e.payload.at? path

def text? (e : Event) (path : List String) : Option String :=
  ((e.at? path).bind Json.asText?).bind nonempty?

def natural? (e : Event) (path : List String) : Option UInt64 :=
  (e.at? path).bind Json.asNatural?

def isTruthyAt (e : Event) (path : List String) : Bool :=
  (e.at? path).any Json.isTruthy

def isEmpty (e : Event) : Bool :=
  !e.payload.isTruthy

end Event

end JobDispatch
