import JobDispatch.Text.Blank

/-! The address of a project in a spec file: the value of its first usable `URL` tag. -/

namespace JobDispatch.SpecFile

open Text

def isWord (word cs : List Char) : Bool :=
  cs.map Char.toLower == word

def lineUrl? (line : List Char) : Option (List Char) :=
  match splitOnce ':' line with
  | none => none
  | some (tag, value) =>
    let value := trim value
    if isWord ['u', 'r', 'l'] (trim tag) && !value.isEmpty then some value else none

def url? (spec : String) : Option String :=
  ((lines '\n' '\r' spec.toList).findSome? lineUrl?).map String.ofList

end JobDispatch.SpecFile
