import JobDispatch.Json.Number

/-! JSON values. An object is a list of members with one entry per key, in the order of keys. -/

namespace JobDispatch

inductive Json
  | null
  | bool (b : Bool)
  | number (n : Json.Number)
  | text (s : String)
  | array (items : List Json)
  | object (members : List (String × Json))

instance : Inhabited Json := ⟨.null⟩

namespace Json

def ofNat (n : UInt64) : Json := .number (.natural n)

def ofOption {α : Type} (f : α → Json) : Option α → Json
  | none => .null
  | some a => f a

def insert (key : String) (value : Json) : List (String × Json) → List (String × Json)
  | [] => [(key, value)]
  | (k, v) :: rest =>
    if key = k then (key, value) :: rest
    else if key < k then (key, value) :: (k, v) :: rest
    else (k, v) :: insert key value rest

def ofMembers (members : List (String × Json)) : List (String × Json) :=
  members.foldl (fun ms m => insert m.1 m.2 ms) []

def member? (key : String) : Json → Option Json
  | .object members => members.lookup key
  | _ => none

def asText? : Json → Option String
  | .text s => some s
  | _ => none

def asNatural? : Json → Option UInt64
  | .number (.natural n) => some n
  | _ => none

def isTruthy : Json → Bool
  | .null => false
  | .bool b => b
  | .number n => !n.isZero
  | .text s => !s.isEmpty
  | .array items => !items.isEmpty
  | .object members => !members.isEmpty

def at? (v : Json) : List String → Option Json
  | [] => some v
  | key :: path => (v.member? key).bind (·.at? path)

@[simp] theorem at?_nil (v : Json) : v.at? [] = some v := rfl

@[simp] theorem at?_cons (v : Json) (key : String) (path : List String) :
    v.at? (key :: path) = (v.member? key).bind (·.at? path) := rfl

end Json

end JobDispatch
