import JobDispatch.Text.Pattern.Written

/-! What written patterns mean. Characters are those of Unicode unless a flag asks for bytes, and
then only ASCII can be told apart by sets. Classes, word boundaries and cases of Unicode are not
known: patterns that need them have no meaning. -/

namespace JobDispatch.Text

structure Flags where
  caseless : Bool := false
  multiline : Bool := false
  dotAll : Bool := false
  swapGreed : Bool := false
  unicode : Bool := true
  crlf : Bool := false

def Flags.set (fs : Flags) : Flag × Bool → Flags
  | (.caseless, b) => { fs with caseless := b }
  | (.multiline, b) => { fs with multiline := b }
  | (.dotAll, b) => { fs with dotAll := b }
  | (.swapGreed, b) => { fs with swapGreed := b }
  | (.unicode, b) => { fs with unicode := b }
  | (.crlf, b) => { fs with crlf := b }
  | (.spaced, _) => fs

def Flags.change (fs : Flags) (change : FlagChange) : Flags := change.foldl Flags.set fs

def isAscii (c : Char) : Bool := c.toNat < 0x80

def CharKind.ascii : CharKind → CharSet
  | .digit => .range '0' '9'
  | .space => .ofRanges [(0x9, 0xd), (0x20, 0x20)]
  | .word => .ofRanges [(0x30, 0x39), (0x41, 0x5a), (0x5f, 0x5f), (0x61, 0x7a)]

def SetOperation.apply : SetOperation → CharSet → CharSet → CharSet
  | .inter => .inter
  | .diff => .diff
  | .symmDiff => .symmDiff

namespace Flags

/-- Adds the other cases where cases do not count. The cases of Unicode are not known, but there are
none to add to no character and to all. -/
def fold? (fs : Flags) (s : CharSet) : Option CharSet :=
  if !fs.caseless then some s
  else if !fs.unicode then some s.bothCases
  else if s = .empty || s = .full then some s
  else none

def negate? (fs : Flags) (negated : Bool) (s : CharSet) : Option CharSet :=
  if !negated then some s else if fs.unicode then some s.complement else none

def foldAndNegate? (fs : Flags) (negated : Bool) (s : CharSet) : Option CharSet :=
  (fs.fold? s).bind (fs.negate? negated)

def kind? (fs : Flags) (negated : Bool) (k : CharKind) : Option CharSet :=
  if fs.unicode then none else fs.negate? negated k.ascii

mutual

def set? (fs : Flags) : WrittenSet → Option CharSet
  | .range a b =>
    if fs.unicode then if fs.caseless then none else some (.range a b)
    else if isAscii a && isAscii b then some (.range a b)
    else none
  | .named negated s => fs.foldAndNegate? negated s
  | .kind negated k => fs.kind? negated k
  | .nested negated s => (fs.set? s).bind (fs.foldAndNegate? negated)
  | .union items => fs.sets? items
  | .op o s t => do
    let s ← fs.set? s
    let t ← fs.set? t
    return o.apply (← fs.fold? s) (← fs.fold? t)

def sets? (fs : Flags) : List WrittenSet → Option CharSet
  | [] => some .empty
  | s :: ss => do return (← fs.set? s).union (← fs.sets? ss)

end

def literal? (fs : Flags) (c : Char) (byte : Bool) : Option Pattern :=
  if fs.unicode then if fs.caseless then none else some (.text [c])
  else if byte && !isAscii c then none
  else if fs.caseless && isAscii c then some (.ofSet true (CharSet.range c c).bothCases)
  else some (.text [c])

def dot? (fs : Flags) : Option Pattern :=
  if !fs.unicode then none
  else if fs.dotAll then some (.one false .full)
  else if fs.crlf then some (.one false (CharSet.ofRanges [(0xa, 0xa), (0xd, 0xd)]).complement)
  else some (.one false (CharSet.range '\n' '\n').complement)

def look? (fs : Flags) : Mark → Option Look
  | .lineStart =>
    some (if !fs.multiline then .start else if fs.crlf then .crlfStart else .lineStart)
  | .lineEnd => some (if !fs.multiline then .finish else if fs.crlf then .crlfEnd else .lineEnd)
  | .start => some .start
  | .finish => some .finish
  | .boundary => if fs.unicode then none else some .boundary
  | .noBoundary => if fs.unicode then none else some .noBoundary
  | .wordStart => if fs.unicode then none else some .wordStart
  | .wordEnd => if fs.unicode then none else some .wordEnd

end Flags

def Repetition.apply : Repetition → Bool → Pattern → Pattern
  | .zeroOrOne => .optional
  | .zeroOrMore => .zeroOrMore
  | .oneOrMore => .oneOrMore

namespace Written

mutual

def meaning? (fs : Flags) : Written → Option (Pattern × Flags)
  | .empty => some (.empty, fs)
  | .flags change => some (.empty, fs.change change)
  | .literal c byte => (fs.literal? c byte).map (·, fs)
  | .dot => fs.dot?.map (·, fs)
  | .mark m => (fs.look? m).map (.look ·, fs)
  | .kind negated k => (fs.kind? negated k).map (.ofSet (!fs.unicode) ·, fs)
  | .set negated s =>
    ((fs.set? s).bind (fs.foldAndNegate? negated)).map (.ofSet (!fs.unicode) ·, fs)
  | .repeated r greedy w => do
    let (p, fs) ← meaning? fs w
    return (r.apply (greedy != fs.swapGreed) p, fs)
  | .group number change w => do
    let (p, _) ← meaning? (fs.change change) w
    return (match number with | some n => .captured n p | none => p, fs)
  | .alternatives ws => do
    let (ps, fs) ← meanings? fs ws
    return (.anyOf ps, fs)
  | .sequence ws => do
    let (ps, fs) ← meanings? fs ws
    return (.concat ps, fs)

def meanings? (fs : Flags) : List Written → Option (List Pattern × Flags)
  | [] => some ([], fs)
  | w :: ws => do
    let (p, fs) ← meaning? fs w
    let (ps, fs) ← meanings? fs ws
    return (p :: ps, fs)

end

def depthLimit : Nat := 250

def pattern? (w : Written) : Option Pattern :=
  if w.depth ≤ depthLimit then (w.meaning? {}).map (·.1) else none

end Written

end JobDispatch.Text
