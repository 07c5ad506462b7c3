import JobDispatch.Json.Value
import JobDispatch.Text.Quoted

/-! The text of a JSON value, without blanks. How a float is spelled is left open: there are many
literals for it, and reading one of them need not give the float again. -/

namespace JobDispatch.Json

open Text (hexDigit)

def fractionChars : Option (List Char) → List Char
  | none => []
  | some ds => '.' :: ds

def exponentChars : Option Int → List Char
  | none => []
  | some e => 'e' :: (toString e).toList

def Literal.chars (l : Literal) : List Char :=
  let magnitude := l.whole ++ (fractionChars l.fraction ++ exponentChars l.exponent)
  if l.minus then '-' :: magnitude else magnitude

def Number.literal (spell : Float → Literal) : Number → Literal
  | .natural n => ⟨false, Nat.toDigits 10 n.toNat, none, none⟩
  | .negative n => ⟨true, Nat.toDigits 10 n.1.toInt.natAbs, none, none⟩
  | .float x => spell x

def escapedChar (c : Char) : List Char :=
  match c with
  | '"' => ['\\', '"']
  | '\\' => ['\\', '\\']
  | '\x08' => ['\\', 'b']
  | '\t' => ['\\', 't']
  | '\n' => ['\\', 'n']
  | '\x0c' => ['\\', 'f']
  | '\r' => ['\\', 'r']
  | c =>
    if c.toNat < 0x20 then ['\\', 'u', '0', '0', hexDigit (c.toNat / 16), hexDigit (c.toNat % 16)]
    else [c]

def escaped (s : String) : List Char :=
  '"' :: (s.toList.flatMap escapedChar ++ ['"'])

section Chars

variable (spell : Float → Literal)

mutual

def chars : Json → List Char
  | .null => ['n', 'u', 'l', 'l']
  | .bool true => ['t', 'r', 'u', 'e']
  | .bool false => ['f', 'a', 'l', 's', 'e']
  | .number n => (n.literal spell).chars
  | .text s => escaped s
  | .array items => '[' :: itemChars items
  | .object members => '\x7b' :: memberChars members

def itemChars : List Json → List Char
  | [] => [']']
  | v :: vs => chars v ++ restChars vs

def restChars : List Json → List Char
  | [] => [']']
  | v :: vs => ',' :: (chars v ++ restChars vs)

def memberChars : List (String × Json) → List Char
  | [] => ['\x7d']
  | (k, v) :: ms => escaped k ++ ':' :: (chars v ++ otherChars ms)

def otherChars : List (String × Json) → List Char
  | [] => ['\x7d']
  | (k, v) :: ms => ',' :: (escaped k ++ ':' :: (chars v ++ otherChars ms))

end

def written (v : Json) : String := String.ofList (v.chars spell)

end Chars

def Number.floats : Number → List Float
  | .float x => [x]
  | _ => []

mutual

def floats : Json → List Float
  | .number n => n.floats
  | .array items => itemFloats items
  | .object members => memberFloats members
  | _ => []

def itemFloats : List Json → List Float
  | [] => []
  | v :: vs => v.floats ++ itemFloats vs

def memberFloats : List (String × Json) → List Float
  | [] => []
  | (_, v) :: ms => v.floats ++ memberFloats ms

end

section MapFloats

variable (f : Float → Float)

def Number.mapFloats : Number → Number
  | .float x => .float (f x)
  | n => n

mutual

def mapFloats : Json → Json
  | .number n => .number (n.mapFloats f)
  | .array items => .array (mapItems items)
  | .object members => .object (mapMembers members)
  | v => v

def mapItems : List Json → List Json
  | [] => []
  | v :: vs => mapFloats v :: mapItems vs

def mapMembers : List (String × Json) → List (String × Json)
  | [] => []
  | (k, v) :: ms => (k, mapFloats v) :: mapMembers ms

end

end MapFloats

end JobDispatch.Json
