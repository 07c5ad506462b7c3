/-! Places in a text, counted in bytes. A place found in one text may be used to cut another one,
and may then turn out to be inside of a character. -/

namespace JobDispatch.Text

def splitBytes? : Nat → List Char → Option (List Char × List Char)
  | 0, cs => some ([], cs)
  | _, [] => some ([], [])
  | n, c :: cs =>
    if n < c.utf8Size then none
    else (splitBytes? (n - c.utf8Size) cs).map fun p => (c :: p.1, p.2)

/-- A text that is read, what is left to read, and where that starts. The two texts may differ. -/
structure Cursor where
  text : List Char
  place : Nat
  rest : List Char

namespace Cursor

def past (c : Cursor) (first : Char) (rest : List Char) : Cursor :=
  { c with place := c.place + first.utf8Size, rest := rest }

def find? (signs : List Char) (c : Cursor) : Option (Char × Cursor) :=
  let skipped := c.rest.takeWhile fun s => !signs.contains s
  let place := c.place + (skipped.map Char.utf8Size).foldr (· + ·) 0
  match c.rest.drop skipped.length with
  | [] => none
  | sign :: rest => some (sign, { c with place := place }.past sign rest)

def cut? (start stop : Cursor) : Option (List Char) := do
  let (_, cs) ← splitBytes? start.place start.text
  let (cs, _) ← splitBytes? (stop.place - 1 - start.place) cs
  return cs

def cutRest? (c : Cursor) : Option (List Char) :=
  (splitBytes? c.place c.text).map (·.2)

end Cursor

end JobDispatch.Text
