import JobDispatch.Json.Reader
import JobDispatch.Json.Token
import JobDispatch.Text.Blank
import JobDispatch.Text.Quoted

namespace JobDispatch

structure DispatchId where
  digits : List Nat

namespace DispatchId

open Json (Reader)

def groups : List Nat := [8, 4, 4, 4, 12]

def hexDigits? (cs : List Char) : Option (List Nat) :=
  cs.mapM Json.Token.hexValue?

def grouped? (cs : List Char) : Option (List Nat) :=
  let parts := Text.pieces '-' cs
  if parts.map List.length = groups then (parts.mapM hexDigits?).map List.flatten else none

def ofChars? (cs : List Char) : Option DispatchId :=
  let digits :=
    if cs.length = 32 then hexDigits? cs
    else if cs.length = 38 && cs.head? = some '\x7b' && cs.getLast? = some '\x7d' then
      grouped? (cs.drop 1).dropLast
    else if cs.length = 45 && (cs.take 9).map Char.toLower = "urn:uuid:".toList then
      grouped? (cs.drop 9)
    else grouped? cs
  digits.map DispatchId.mk

def hyphenate : List Nat → List Char → List (List Char)
  | [], _ => []
  | n :: ns, cs => cs.take n :: hyphenate ns (cs.drop n)

def text (id : DispatchId) : String :=
  String.ofList (List.intercalate ['-'] (hyphenate groups (id.digits.map Text.hexDigit)))

def read : Reader DispatchId := fun o d => do
  let s ← Reader.text o d
  match ofChars? s.toList with
  | some id => .ok id
  | none => .error .malformed

end DispatchId

end JobDispatch
