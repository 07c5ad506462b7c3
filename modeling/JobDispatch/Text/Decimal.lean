namespace JobDispatch.Text

def digitValue (c : Char) : Nat := c.toNat - 48

def decimal (cs : List Char) : Nat :=
  cs.foldl (fun n c => n * 10 + digitValue c) 0

def dropSign : List Char → List Char
  | '+' :: cs | '-' :: cs => cs
  | cs => cs

def isDigits (cs : List Char) : Bool := !cs.isEmpty && cs.all Char.isDigit

def isExponent : List Char → Bool
  | [] => true
  | c :: cs => (c = 'e' || c = 'E') && isDigits (dropSign cs)

def isMagnitude (cs : List Char) : Bool :=
  let whole := cs.takeWhile Char.isDigit
  match cs.drop whole.length with
  | '.' :: cs =>
    let places := cs.takeWhile Char.isDigit
    !(whole.isEmpty && places.isEmpty) && isExponent (cs.drop places.length)
  | cs => !whole.isEmpty && isExponent cs

def isNumeral (cs : List Char) : Bool :=
  let cs := dropSign cs
  ["inf", "infinity", "nan"].contains (String.ofList (cs.map Char.toLower)) || isMagnitude cs

end JobDispatch.Text
