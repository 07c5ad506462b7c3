import JobDispatch.Text.Pattern

/-! Patterns as they are written. What a written pattern means depends on flags, which it may change
on the way. -/

namespace JobDispatch.Text

inductive Flag
  | caseless
  | multiline
  | dotAll
  | swapGreed
  | unicode
  | crlf
  | spaced
  deriving DecidableEq

def Flag.ofChar? : Char → Option Flag
  | 'i' => some .caseless
  | 'm' => some .multiline
  | 's' => some .dotAll
  | 'U' => some .swapGreed
  | 'u' => some .unicode
  | 'R' => some .crlf
  | 'x' => some .spaced
  | _ => none

abbrev FlagChange := List (Flag × Bool)

inductive CharKind
  | digit
  | space
  | word
  deriving DecidableEq

inductive SetOperation
  | inter
  | diff
  | symmDiff
  deriving DecidableEq

inductive WrittenSet
  | range (a b : Char)
  | named (negated : Bool) (s : CharSet)
  | kind (negated : Bool) (k : CharKind)
  | nested (negated : Bool) (s : WrittenSet)
  | union (items : List WrittenSet)
  | op (o : SetOperation) (s t : WrittenSet)

inductive Mark
  | lineStart
  | lineEnd
  | start
  | finish
  | boundary
  | noBoundary
  | wordStart
  | wordEnd
  deriving DecidableEq

inductive Repetition
  | zeroOrOne
  | zeroOrMore
  | oneOrMore
  deriving DecidableEq

inductive Written
  | empty
  | flags (change : FlagChange)
  | literal (c : Char) (byte : Bool)
  | dot
  | mark (m : Mark)
  | kind (negated : Bool) (k : CharKind)
  | set (negated : Bool) (s : WrittenSet)
  | repeated (r : Repetition) (greedy : Bool) (w : Written)
  | group (number : Option Nat) (change : FlagChange) (w : Written)
  | alternatives (ws : List Written)
  | sequence (ws : List Written)

mutual

def WrittenSet.depth : WrittenSet → Nat
  | .range .. | .named .. | .kind .. => 0
  | .nested _ s => s.depth + 1
  | .union [] => 0
  | .union items => WrittenSet.depthOfAll items + 1
  | .op _ s t => max s.depth t.depth + 1

def WrittenSet.depthOfAll : List WrittenSet → Nat
  | [] => 0
  | s :: ss => max s.depth (depthOfAll ss)

end

mutual

def Written.depth : Written → Nat
  | .empty | .flags _ | .literal .. | .dot | .mark _ | .kind .. => 0
  | .set _ s => s.depth + 1
  | .repeated _ _ w | .group _ _ w => w.depth + 1
  | .alternatives ws | .sequence ws => Written.depthOfAll ws + 1

def Written.depthOfAll : List Written → Nat
  | [] => 0
  | w :: ws => max w.depth (depthOfAll ws)

end

end JobDispatch.Text
