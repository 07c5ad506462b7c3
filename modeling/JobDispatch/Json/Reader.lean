import JobDispatch.Json.Document

/-! Readers take a document as a value of a type, or give the first reason in document order why it
is none. A record is an object with named fields, in any order and with other keys ignored, or an
array of its fields in declared order. A choice is a name, or an object with that name as its
key. -/

namespace JobDispatch.Json

inductive Mismatch
  | unknownVariant (name : String)
  | missingField (name : String)
  | duplicateField (name : String)
  | wrongType
  | wrongValue
  | wrongLength
  | malformed
  deriving DecidableEq

def Mismatch.message : Mismatch → String
  | .unknownVariant name => "unknown variant `" ++ name ++ "`"
  | .missingField name => "missing field `" ++ name ++ "`"
  | .duplicateField name => "duplicate field `" ++ name ++ "`"
  | .wrongType => "invalid type"
  | .wrongValue => "invalid value"
  | .wrongLength => "invalid length"
  | .malformed => "invalid"

/-- Where a document comes from: a text, in which so many levels may still be entered, or a value
that has been read before, which may nest without limit. -/
inductive Origin
  | text (levels : Nat)
  | value

namespace Origin

def whole : Origin := .text 127

def enter : Origin → Except Mismatch Origin
  | .text 0 => .error .malformed
  | .text (levels + 1) => .ok (.text levels)
  | .value => .ok .value

/-- In a text the end of a record is expected where a value has too many parts. -/
def excess : Origin → Mismatch
  | .text _ => .malformed
  | .value => .wrongLength

/-- The members of an object. Of several in a text with one key the last counts, and a value has one
for each key already. -/
def gather : Origin → List (String × Json) → List (String × Json)
  | .text _, ms => Json.ofMembers ms
  | .value, ms => ms

end Origin

def Ending.check : Ending → Except Mismatch Unit
  | .closed => .ok ()
  | _ => .error .malformed

def Document.mismatch : Document → Mismatch
  | .number none | .text none | .malformed => .malformed
  | _ => .wrongType

abbrev Reader (α : Type) := Origin → Document → Except Mismatch α

namespace Reader

variable {α β δ : Type}

def text : Reader String
  | _, .text (some s) => .ok s
  | _, d => .error d.mismatch

def natural : Reader UInt64
  | _, .number (some (.natural n)) => .ok n
  | _, .number (some (.negative _)) => .error .wrongValue
  | _, d => .error d.mismatch

def optional (read : Reader α) : Reader (Option α)
  | _, .null => .ok none
  | o, d => (read o d).map some

def items (read : Reader α) (o : Origin) : List Document → Except Mismatch (List α)
  | [] => .ok []
  | d :: ds => do
    let a ← read o d
    let as ← items read o ds
    return a :: as

def list (read : Reader α) : Reader (List α)
  | o, .array ds ending => do
    let o ← o.enter
    let as ← items read o ds
    ending.check
    return as
  | _, d => .error d.mismatch

mutual

def json : Reader Json
  | _, .null => .ok .null
  | _, .bool b => .ok (.bool b)
  | _, .number (some n) => .ok (.number n)
  | _, .text (some s) => .ok (.text s)
  | o, .array ds ending => do
    let o ← o.enter
    let vs ← jsonItems o ds
    ending.check
    return .array vs
  | o, .object ms ending => do
    let o ← o.enter
    let vs ← jsonMembers o ms
    ending.check
    return .object (o.gather vs)
  | _, .number none => .error .malformed
  | _, .text none => .error .malformed
  | _, .malformed => .error .malformed

def jsonItems (o : Origin) : List Document → Except Mismatch (List Json)
  | [] => .ok []
  | d :: ds => do
    let v ← json o d
    let vs ← jsonItems o ds
    return v :: vs

def jsonMembers (o : Origin) :
    List (Option String × Document) → Except Mismatch (List (String × Json))
  | [] => .ok []
  | (none, _) :: _ => .error .malformed
  | (some k, d) :: ms => do
    let v ← json o d
    let vs ← jsonMembers o ms
    return (k, v) :: vs

end

def members : Reader (List (String × Json))
  | o, .object ms ending => do
    let o ← o.enter
    let vs ← jsonMembers o ms
    ending.check
    return o.gather vs
  | _, d => .error d.mismatch

structure Record (δ α : Type) where
  fields : List String
  blank : δ
  put : String → Origin → Document → δ → Except Mismatch δ
  finish : (String → Mismatch) → δ → Except Mismatch α

def fill (name : String) (read : Reader α) (o : Origin) (d : Document) (slot : Option α) :
    Except Mismatch (Option α) :=
  if slot.isSome then .error (.duplicateField name) else (read o d).map some

def require (name : String) (absent : String → Mismatch) : Option α → Except Mismatch α
  | some a => .ok a
  | none => .error (absent name)

def putMembers (r : Record δ α) (o : Origin) :
    List (Option String × Document) → δ → Except Mismatch δ
  | [], draft => .ok draft
  | (none, _) :: _, _ => .error .malformed
  | (some k, d) :: ms, draft => do
    if k ∈ r.fields then
      let draft ← r.put k o d draft
      putMembers r o ms draft
    else if d.intact then putMembers r o ms draft
    else .error .malformed

def putItems (r : Record δ α) (o : Origin) : List String → List Document → δ → Except Mismatch δ
  | f :: fs, d :: ds, draft => do
    let draft ← r.put f o d draft
    putItems r o fs ds draft
  | _, _, draft => .ok draft

def record (r : Record δ α) : Reader α
  | o, .object ms ending => do
    let inner ← o.enter
    let draft ← putMembers r inner ms r.blank
    ending.check
    r.finish .missingField draft
  | o, .array ds ending => do
    let inner ← o.enter
    let draft ← putItems r inner r.fields ds r.blank
    if r.fields.length < ds.length then .error o.excess
    ending.check
    r.finish (fun _ => .wrongLength) draft
  | _, d => .error d.mismatch

/-- A choice by name. `bare` reads the name alone, and `content` what stands under it. -/
def tagged (find : String → Option β) (bare : β → Except Mismatch α) (content : β → Reader α) :
    Reader α
  | _, .text (some s) =>
    match find s with
    | some b => bare b
    | none => .error (.unknownVariant s)
  | o, .object ms ending => do
    let inner ← o.enter
    match ms, o with
    | [], .text _ => .error .malformed
    | [], .value => .error .wrongValue
    | _ :: _ :: _, .value => .error .wrongValue
    | (none, _) :: _, _ => .error .malformed
    | (some k, d) :: rest, _ =>
      match find k with
      | none => .error (.unknownVariant k)
      | some b => do
        let a ← content b inner d
        if rest.isEmpty then ending.check else .error .malformed
        return a
  | .text _, _ => .error .malformed
  | .value, d => .error d.mismatch

def unit (a : α) : Reader α
  | _, .null => .ok a
  | _, d => .error d.mismatch

def choice (find : String → Option α) : Reader α :=
  tagged find .ok unit

def ofText (read : Reader α) (s : String) : Except Mismatch α := do
  let (d, alone) := Document.ofChars s.toList
  let a ← read .whole d
  if alone then .ok a else .error .malformed

def ofJson (read : Reader α) (v : Json) : Except Mismatch α :=
  read .value (Document.ofJson v)

end Reader

def parse? (s : String) : Option Json :=
  (Reader.json.ofText s).toOption

end JobDispatch.Json
