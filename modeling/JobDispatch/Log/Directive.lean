import JobDispatch.Log
import JobDispatch.Log.FieldTest
import JobDispatch.Text.Alphanumeric
import JobDispatch.Text.Cursor

/-! The parts of a log setting, such as `debug`, `listener=info` or
`jobs[process_message{topic=None}]=trace`. A part is read without the blanks around it. Its names
are cut from the text with the blanks, at the places where they stand in the text without them. -/

namespace JobDispatch.Log

inductive SettingError
  | unreadable
  | cutCharacter
  deriving DecidableEq

def orFail {α : Type} (e : SettingError) : Option α → Except SettingError α
  | some x => .ok x
  | none => .error e

def traceRank : Nat := 5

def unsigned? (cs : List Char) : Option Nat :=
  let digits := if cs.head? = some '+' then cs.drop 1 else cs
  if Text.isDigits digits then some (Text.decimal digits) else none

def Level.rank? (cs : List Char) : Option Nat :=
  match unsigned? cs with
  | some n => if n ≤ traceRank then some n else none
  | none =>
    match String.ofList (cs.map Char.toLower) with
    | "off" => some 0
    | "error" => some 1
    | "warn" => some 2
    | "info" => some 3
    | "debug" => some 4
    | "trace" => some traceRank
    | _ => none

/-- The highest rank shown of the records whose target starts with `target`. With a span the records
in it are meant, and with a field those that have it or stand in a span that has it. -/
structure Directive where
  target : List Char := []
  span : Option (List Char) := none
  field : Option FieldTest := none
  rank : Nat := traceRank

namespace Directive

def startsTarget (c : Char) : Bool :=
  Text.isAlphanumeric c || c = '_' || c = ':' || c = '-'

def readTo (signs : List Char) (c : Text.Cursor) :
    Except SettingError (List Char × Char × Text.Cursor) := do
  let (sign, next) ← orFail .unreadable (c.find? signs)
  return (← orFail .cutCharacter (c.cut? next), sign, next)

def leveled (d : Directive) (c : Text.Cursor) : Except SettingError Directive := do
  let level ← orFail .cutCharacter c.cutRest?
  let rank ← orFail .unreadable (if level.isEmpty then some traceRank else Level.rank? level)
  return { d with rank := rank }

def closed (d : Directive) (c : Text.Cursor) : Except SettingError Directive :=
  match c.rest with
  | [] => .ok d
  | '=' :: rest => d.leveled (c.past '=' rest)
  | _ => .error .unreadable

def spanned (target : List Char) (c : Text.Cursor) : Except SettingError Directive := do
  let (name, sign, c) ← readTo [']', '\x7b'] c
  if sign = ']' then closed { target := target, span := some name } c
  else
    let (text, _, c) ← readTo ['\x7d'] c
    let test ← orFail .unreadable (FieldTest.ofChars? text)
    let d : Directive :=
      { target := target, span := if name.isEmpty then none else some name, field := some test }
    match c.rest with
    | ']' :: rest => d.closed (c.past ']' rest)
    | _ => .error .unreadable

def ofWord (cs : List Char) : Directive :=
  match Level.rank? cs with
  | some rank => { rank := rank }
  | none => { target := cs }

def ofChars (cs : List Char) : Except SettingError Directive :=
  let start : Text.Cursor := ⟨cs, 0, Text.trim cs⟩
  match start.rest with
  | [] => .error .unreadable
  | '[' :: rest => spanned [] (start.past '[' rest)
  | first :: _ =>
    if !startsTarget first then .error .unreadable
    else if (start.find? ['=', '[']).isNone then .ok (ofWord cs)
    else do
      let (target, sign, c) ← readTo ['=', '['] start
      if sign = '[' then spanned target c else leveled { target := target } c

end Directive

end JobDispatch.Log
