import JobDispatch.Text.Alphanumeric
import JobDispatch.Text.Blank
import JobDispatch.Text.Pattern.Meaning

namespace JobDispatch.Text

namespace Written

def dropSpace (inComment : Bool) : List Char → List Char
  | [] => []
  | c :: cs =>
    if inComment then dropSpace (c != '\n') cs
    else if isBlank c then dropSpace false cs
    else if c = '#' then dropSpace true cs
    else c :: cs

def skip (spaced : Bool) (cs : List Char) : List Char :=
  if spaced then dropSpace false cs else cs

def peekBeyond (inComment : Bool) : List Char → Option Char
  | [] => none
  | c :: cs =>
    if isBlank c then peekBeyond inComment cs
    else if !inComment && c = '#' then peekBeyond true cs
    else some c

def peek (spaced : Bool) (cs : List Char) : Option Char :=
  if spaced then (peekBeyond false cs).or cs.head? else cs.head?

inductive Escape
  | literal (c : Char) (byte : Bool)
  | mark (m : Mark)
  | kind (negated : Bool) (k : CharKind)

def Escape.written : Escape → Written
  | .literal c byte => .literal c byte
  | .mark m => .mark m
  | .kind negated k => .kind negated k

def hexDigit? (c : Char) : Option Nat :=
  if '0' ≤ c && c ≤ '9' then some (c.toNat - 48)
  else if 'a' ≤ c && c ≤ 'f' then some (c.toNat - 87)
  else if 'A' ≤ c && c ≤ 'F' then some (c.toNat - 55)
  else none

def hexChar? (spaced : Bool) : Nat → Nat → List Char → Option (Char × List Char)
  | 0, n, cs => if h : n.isValidChar then some (Char.ofNatAux n h, skip spaced cs) else none
  | digits + 1, n, cs =>
    match skip spaced cs with
    | [] => none
    | c :: cs => (hexDigit? c).bind fun d => hexChar? spaced digits (16 * n + d) cs

def escapedChar? : Char → Option Char
  | 'a' => some '\x07'
  | 'f' => some '\x0c'
  | 't' => some '\t'
  | 'n' => some '\n'
  | 'r' => some '\r'
  | 'v' => some '\x0b'
  | c => if isAscii c && !c.isAlphanum && c != '<' && c != '>' then some c else none

def escape? (spaced : Bool) : List Char → Option (Escape × List Char)
  | [] => none
  | c :: cs =>
    let hex (digits : Nat) (byte : Bool) :=
      (hexChar? spaced digits 0 cs).map fun (c, cs) => (Escape.literal c byte, cs)
    match c with
    | 'x' => hex 2 true
    | 'u' => hex 4 false
    | 'U' => hex 8 false
    | 'd' => some (.kind false .digit, cs)
    | 'D' => some (.kind true .digit, cs)
    | 's' => some (.kind false .space, cs)
    | 'S' => some (.kind true .space, cs)
    | 'w' => some (.kind false .word, cs)
    | 'W' => some (.kind true .word, cs)
    | 'A' => some (.mark .start, cs)
    | 'z' => some (.mark .finish, cs)
    | 'b' => some (.mark .boundary, cs)
    | 'B' => some (.mark .noBoundary, cs)
    | '<' => some (.mark .wordStart, cs)
    | '>' => some (.mark .wordEnd, cs)
    | c => (escapedChar? c).map fun c => (.literal c false, cs)

def namedRanges? : String → Option (List (Nat × Nat))
  | "alnum" => some [(0x30, 0x39), (0x41, 0x5a), (0x61, 0x7a)]
  | "alpha" => some [(0x41, 0x5a), (0x61, 0x7a)]
  | "ascii" => some [(0x0, 0x7f)]
  | "blank" => some [(0x9, 0x9), (0x20, 0x20)]
  | "cntrl" => some [(0x0, 0x1f), (0x7f, 0x7f)]
  | "digit" => some [(0x30, 0x39)]
  | "graph" => some [(0x21, 0x7e)]
  | "lower" => some [(0x61, 0x7a)]
  | "print" => some [(0x20, 0x7e)]
  | "punct" => some [(0x21, 0x2f), (0x3a, 0x40), (0x5b, 0x60), (0x7b, 0x7e)]
  | "space" => some [(0x9, 0xd), (0x20, 0x20)]
  | "upper" => some [(0x41, 0x5a)]
  | "word" => some [(0x30, 0x39), (0x41, 0x5a), (0x5f, 0x5f), (0x61, 0x7a)]
  | "xdigit" => some [(0x30, 0x39), (0x41, 0x46), (0x61, 0x66)]
  | _ => none

def namedSet? : List Char → Option (WrittenSet × List Char)
  | ':' :: cs =>
    let negated := cs.head? = some '^'
    let cs := if negated then cs.drop 1 else cs
    let name := cs.takeWhile (· != ':')
    match cs.drop name.length with
    | ':' :: ']' :: rest =>
      (namedRanges? (String.ofList name)).map fun rs => (.named negated ⟨rs⟩, rest)
    | _ => none
  | _ => none

/-- A set part way through: one whose bracket is open, with what stands before it in the set around
it, or an operation that waits for its right side. -/
inductive SetFrame
  | opened (before : List WrittenSet) (negated : Bool)
  | operation (o : SetOperation) (s : WrittenSet)

def unionOfItems : List WrittenSet → WrittenSet
  | [s] => s
  | items => .union items.reverse

def endOperation (s : WrittenSet) : List SetFrame → WrittenSet × List SetFrame
  | .operation o left :: frames => (.op o left s, frames)
  | frames => (s, frames)

def leadingHyphens (spaced : Bool) : Nat → List WrittenSet → List Char →
    List WrittenSet × List Char
  | 0, items, cs => (items, cs)
  | fuel + 1, items, cs =>
    match skip spaced cs with
    | '-' :: cs => leadingHyphens spaced fuel (.range '-' '-' :: items) cs
    | cs => (items, cs)

def setStart (spaced : Bool) (cs : List Char) : Bool × List WrittenSet × List Char :=
  let cs := skip spaced cs
  let negated := cs.head? = some '^'
  let cs := if negated then cs.drop 1 else cs
  match leadingHyphens spaced cs.length [] cs with
  | ([], ']' :: cs) => (negated, [.range ']' ']'], cs)
  | (items, cs) => (negated, items, cs)

def setItem? (spaced : Bool) : List Char → Option (Escape × List Char)
  | [] => none
  | '\\' :: cs => escape? spaced cs
  | c :: cs => some (.literal c false, cs)

def setRange? (spaced : Bool) (cs : List Char) : Option (WrittenSet × List Char) := do
  let (first, cs) ← setItem? spaced cs
  let alone : Option WrittenSet :=
    match first with
    | .literal c _ => some (.range c c)
    | .kind negated k => some (.kind negated k)
    | .mark _ => none
  match skip spaced cs with
  | '-' :: rest =>
    if peek spaced rest = some ']' || peek spaced rest = some '-' then
      return (← alone, '-' :: rest)
    else
      match first, ← setItem? spaced (skip spaced rest) with
      | .literal a _, (.literal b _, cs) => if a ≤ b then some (.range a b, cs) else none
      | _, _ => none
  | cs => return (← alone, cs)

def setOperation? : List Char → Option (SetOperation × List Char)
  | '&' :: '&' :: cs => some (.inter, cs)
  | '-' :: '-' :: cs => some (.diff, cs)
  | '~' :: '~' :: cs => some (.symmDiff, cs)
  | _ => none

def setFrom (spaced : Bool) : Nat → List SetFrame → List WrittenSet → List Char →
    Option (Bool × WrittenSet × List Char)
  | 0, _, _, _ => none
  | fuel + 1, frames, items, cs =>
    let cs := skip spaced cs
    match setOperation? cs with
    | some (o, cs) =>
      let (s, frames) := endOperation (unionOfItems items) frames
      setFrom spaced fuel (.operation o s :: frames) [] cs
    | none =>
      match cs with
      | '[' :: cs =>
        match namedSet? cs with
        | some (s, cs) => setFrom spaced fuel frames (s :: items) cs
        | none =>
          let (negated, inner, cs) := setStart spaced cs
          setFrom spaced fuel (.opened items negated :: frames) inner cs
      | ']' :: cs =>
        match endOperation (unionOfItems items) frames with
        | (s, [.opened _ negated]) => some (negated, s, cs)
        | (s, .opened before negated :: frames) =>
          setFrom spaced fuel frames (.nested negated s :: before) cs
        | _ => none
      | cs => do
        let (s, cs) ← setRange? spaced cs
        setFrom spaced fuel frames (s :: items) cs

def set? (spaced : Bool) (cs : List Char) : Option (Written × List Char) := do
  let (negated, items, rest) := setStart spaced cs
  let (negated, s, rest) ← setFrom spaced (cs.length + 1) [.opened [] negated] items rest
  return (.set negated s, rest)

/-- Reads flags up to the sign that ends them. None is named twice, and a hyphen, after which flags
are turned off, is followed by some. -/
def flagChange? (negated hyphenLast : Bool) (change : FlagChange) :
    List Char → Option (FlagChange × Char × List Char)
  | [] => none
  | c :: cs =>
    if c = ':' || c = ')' then if hyphenLast then none else some (change.reverse, c, cs)
    else if c = '-' then if negated then none else flagChange? true true change cs
    else
      match Flag.ofChar? c with
      | none => none
      | some f =>
        if change.any (·.1 = f) then none
        else flagChange? negated false ((f, !negated) :: change) cs

def startsName (c : Char) : Bool := c = '_' || isAlphabetic c

def continuesName (c : Char) : Bool :=
  c = '_' || c = '.' || c = '[' || c = ']' || isAlphanumeric c

def groupName? (cs : List Char) : Option (List Char × List Char) :=
  let name := cs.takeWhile (· != '>')
  match name, cs.drop name.length with
  | c :: rest, '>' :: cs =>
    if startsName c && rest.all continuesName then some (name, cs) else none
  | _, _ => none

inductive Opening
  | flags (change : FlagChange)
  | group (change : FlagChange)
  | captured
  | named (name : List Char)

def opening? : List Char → Option (Opening × List Char)
  | '?' :: 'P' :: '<' :: cs | '?' :: '<' :: cs => (groupName? cs).map fun (name, cs) =>
    (.named name, cs)
  | '?' :: cs => do
    let (change, last, cs) ← flagChange? false false [] cs
    if last = ':' then some (.group change, cs)
    else if change.isEmpty then none
    else some (.flags change, cs)
  | cs => some (.captured, cs)

structure Group where
  before : List Written := []
  parts : List Written := []

def Group.last (g : Group) : Written :=
  match g.parts with
  | [] => .empty
  | [w] => w
  | ws => .sequence ws.reverse

def Group.close (g : Group) : Written :=
  match g.before with
  | [] => g.last
  | ws => .alternatives (g.last :: ws).reverse

def Group.add (g : Group) (w : Written) : Group := { g with parts := w :: g.parts }

def Group.next (g : Group) : Group := ⟨g.last :: g.before, []⟩

/-- A group around the one that is read, with how the inner one is captured, the flags that it
changes, and whether blanks are skipped outside of it. -/
structure Around where
  group : Group
  number : Option Nat
  change : FlagChange
  spaced : Bool

structure Reading where
  group : Group := {}
  around : List Around := []
  spaced : Bool := false
  names : List (List Char) := []
  captured : Nat := 0

namespace Reading

def add (r : Reading) (w : Written) : Reading := { r with group := r.group.add w }

def spacedAfter (r : Reading) (change : FlagChange) : Bool :=
  (change.lookup .spaced).getD r.spaced

def enter (r : Reading) (number : Option Nat) (change : FlagChange) : Reading :=
  { r with
    group := {}
    around := ⟨r.group, number, change, r.spaced⟩ :: r.around
    spaced := r.spacedAfter change }

def enterCaptured (r : Reading) : Reading :=
  { r with captured := r.captured + 1 }.enter (some (r.captured + 1)) []

def opened? (r : Reading) : Opening → Option Reading
  | .flags change => some { r.add (.flags change) with spaced := r.spacedAfter change }
  | .group change => some (r.enter none change)
  | .captured => some r.enterCaptured
  | .named name =>
    if r.names.contains name then none
    else some { r with names := name :: r.names }.enterCaptured

def closed? (r : Reading) : Option Reading :=
  match r.around with
  | [] => none
  | a :: around =>
    some { r with
      group := a.group.add (.group a.number a.change r.group.close)
      around := around
      spaced := a.spaced }

def repeated? (r : Reading) (repetition : Repetition) (greedy : Bool) : Option Reading :=
  match r.group.parts with
  | [] | .flags _ :: _ => none
  | w :: ws => some { r with group := ⟨r.group.before, .repeated repetition greedy w :: ws⟩ }

end Reading

def repetition? : Char → Option Repetition
  | '?' => some .zeroOrOne
  | '*' => some .zeroOrMore
  | '+' => some .oneOrMore
  | _ => none

def readFrom : Nat → Reading → List Char → Option Written
  | 0, _, _ => none
  | fuel + 1, r, cs =>
    match skip r.spaced cs with
    | [] => if r.around.isEmpty then some r.group.close else none
    | '(' :: cs => do
      let (opening, cs) ← opening? (skip r.spaced cs)
      readFrom fuel (← r.opened? opening) cs
    | ')' :: cs => do readFrom fuel (← r.closed?) cs
    | '|' :: cs => readFrom fuel { r with group := r.group.next } cs
    | '[' :: cs => do
      let (w, cs) ← set? r.spaced cs
      readFrom fuel (r.add w) cs
    | '\\' :: cs => do
      let (e, cs) ← escape? r.spaced cs
      readFrom fuel (r.add e.written) cs
    | '\x7b' :: _ => none
    | '.' :: cs => readFrom fuel (r.add .dot) cs
    | '^' :: cs => readFrom fuel (r.add (.mark .lineStart)) cs
    | '$' :: cs => readFrom fuel (r.add (.mark .lineEnd)) cs
    | c :: cs =>
      match repetition? c with
      | some repetition => do
        let lazy := cs.head? = some '?'
        let cs := if lazy then cs.drop 1 else cs
        readFrom fuel (← r.repeated? repetition (!lazy)) cs
      | none => readFrom fuel (r.add (.literal c false)) cs

def ofChars? (cs : List Char) : Option Written := readFrom (cs.length + 1) {} cs

end Written

def Pattern.ofChars? (cs : List Char) : Option Pattern :=
  (Written.ofChars? cs).bind Written.pattern?

end JobDispatch.Text
