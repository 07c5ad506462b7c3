import JobDispatch.Text.CharSet

/-! Patterns of text, put together so that simple ones stay simple. Of several ways to match some
are preferred: an earlier alternative to a later one, and more repetitions to fewer unless the
pattern says otherwise. -/

namespace JobDispatch.Text

inductive Look
  | start
  | finish
  | lineStart
  | lineEnd
  | crlfStart
  | crlfEnd
  | boundary
  | noBoundary
  | wordStart
  | wordEnd
  deriving DecidableEq

/-- A pattern. Sets given by bytes are told from those given by characters, and captured groups have
numbers: such patterns are not equal, though they match alike. -/
inductive Pattern
  | empty
  | text (cs : List Char)
  | one (bytes : Bool) (s : CharSet)
  | look (l : Look)
  | captured (number : Nat) (p : Pattern)
  | optional (greedy : Bool) (p : Pattern)
  | star (greedy : Bool) (p : Pattern)
  | plus (greedy : Bool) (p : Pattern)
  | seq (p q : Pattern)
  | alt (p q : Pattern)
  deriving DecidableEq

namespace Pattern

def size : Pattern → Nat
  | .empty | .one .. | .look _ => 1
  | .text cs => cs.length + 1
  | .captured _ p | .optional _ p | .star _ p | .plus _ p => p.size + 1
  | .seq p q | .alt p q => p.size + q.size + 1

def never : Pattern := .one true .empty

def ofSet (bytes : Bool) (s : CharSet) : Pattern :=
  match s.single? with
  | some c => .text [c]
  | none => if s = .empty then never else .one bytes s

def onlyEmpty : Pattern → Bool
  | .empty | .look _ => true
  | .text cs => cs.isEmpty
  | .captured _ p | .optional _ p | .plus _ p => p.onlyEmpty
  | .seq p q | .alt p q => p.onlyEmpty && q.onlyEmpty
  | .one .. | .star .. => false

def leastLength? : Pattern → Option Nat
  | .empty | .look _ => some 0
  | .text cs => some cs.length
  | .one _ s => if s = .empty then none else some 1
  | .captured _ p | .plus _ p => p.leastLength?
  | .optional _ p | .star _ p => p.leastLength?.map fun _ => 0
  | .seq p q => do return (← p.leastLength?) + (← q.leastLength?)
  | .alt p q => do return min (← p.leastLength?) (← q.leastLength?)

def zeroOrMore (greedy : Bool) (p : Pattern) : Pattern :=
  if p.onlyEmpty then .optional greedy p else .star greedy p

def oneOrMore (greedy : Bool) (p : Pattern) : Pattern :=
  if p.onlyEmpty then p else .plus greedy p

def parts : Pattern → List Pattern
  | .empty => []
  | .seq p q => p :: parts q
  | p => [p]

def ofParts : List Pattern → Pattern
  | [] => .empty
  | [p] => p
  | p :: ps => .seq p (ofParts ps)

def consPart : Pattern → List Pattern → List Pattern
  | .text cs, .text ds :: ps => .text (cs ++ ds) :: ps
  | p, ps => p :: ps

def concat (ps : List Pattern) : Pattern :=
  ofParts ((ps.flatMap parts).foldr consPart [])

def branches : Pattern → List Pattern
  | .alt p q => p :: branches q
  | p => [p]

def ofBranches : List Pattern → Pattern
  | [] => never
  | [p] => p
  | p :: ps => .alt p (ofBranches ps)

def asChar? : Pattern → Option Char
  | .text [c] => some c
  | _ => none

def asSet? : Pattern → Option CharSet
  | .one _ s => some s
  | _ => none

def asParts? : Pattern → Option (List Pattern)
  | .seq p q => some (p :: parts q)
  | _ => none

def unionOf (ss : List CharSet) : CharSet := ss.foldl .union .empty

def commonStart : List Pattern → List Pattern → List Pattern
  | p :: ps, q :: qs => if p = q then p :: commonStart ps qs else []
  | _, _ => []

def sharedStart : List (List Pattern) → List Pattern
  | [] => []
  | ps :: pss => pss.foldl commonStart ps

/-- One of several patterns. Characters become a set, and so do sets. Sequences that start alike
share their start, after which they are alternatives. -/
def anyOfWithin : Nat → List Pattern → Pattern
  | 0, ps => ofBranches (ps.flatMap branches)
  | fuel + 1, ps =>
    let ps := ps.flatMap branches
    if ps.length < 2 then ofBranches ps
    else
      match ps.mapM asChar?, ps.mapM asSet?, ps.mapM asParts? with
      | some cs, _, _ => ofSet false (unionOf (cs.map fun c => .range c c))
      | none, some ss, _ => ofSet false (unionOf ss)
      | none, none, none => ofBranches ps
      | none, none, some pss =>
        let shared := sharedStart pss
        if shared.isEmpty then ofBranches ps
        else
          let rests := pss.map fun ps => concat (ps.drop shared.length)
          concat (shared ++ [anyOfWithin fuel rests])

def anyOf (ps : List Pattern) : Pattern :=
  anyOfWithin ((ps.map size).foldr (· + ·) 0) ps

end Pattern

end JobDispatch.Text
