/-! Sets of characters, as ascending ranges of code points with gaps between them. -/

namespace JobDispatch.Text

structure CharSet where
  ranges : List (Nat × Nat)
  deriving DecidableEq

namespace CharSet

def lastCode : Nat := 0x10ffff

def empty : CharSet := ⟨[]⟩

def full : CharSet := ⟨[(0, lastCode)]⟩

def has (s : CharSet) (c : Char) : Bool :=
  s.ranges.any fun r => r.1 ≤ c.toNat && c.toNat ≤ r.2

def insertRange (a b : Nat) : List (Nat × Nat) → List (Nat × Nat)
  | [] => [(a, b)]
  | (c, d) :: rs =>
    if b + 1 < c then (a, b) :: (c, d) :: rs
    else if d + 1 < a then (c, d) :: insertRange a b rs
    else insertRange (min a c) (max b d) rs

def union (s t : CharSet) : CharSet :=
  ⟨t.ranges.foldl (fun rs r => insertRange r.1 r.2 rs) s.ranges⟩

def ofRanges (rs : List (Nat × Nat)) : CharSet := union empty ⟨rs⟩

def range (a b : Char) : CharSet := ⟨[(a.toNat, b.toNat)]⟩

def gaps (n : Nat) : List (Nat × Nat) → List (Nat × Nat)
  | [] => if n ≤ lastCode then [(n, lastCode)] else []
  | (c, d) :: rs => if n < c then (n, c - 1) :: gaps (d + 1) rs else gaps (d + 1) rs

def complement (s : CharSet) : CharSet := ⟨gaps 0 s.ranges⟩

def inter (s t : CharSet) : CharSet := (s.complement.union t.complement).complement

def diff (s t : CharSet) : CharSet := s.inter t.complement

def symmDiff (s t : CharSet) : CharSet := (s.union t).diff (s.inter t)

def moved (a b : Nat) (offset : Nat → Nat) (r : Nat × Nat) : Option (Nat × Nat) :=
  let first := max a r.1
  let last := min b r.2
  if first ≤ last then some (offset first, offset last) else none

def bothCases (s : CharSet) : CharSet :=
  let lower := s.ranges.filterMap (moved 0x41 0x5a (· + 32))
  let upper := s.ranges.filterMap (moved 0x61 0x7a (· - 32))
  s.union (ofRanges (lower ++ upper))

def single? (s : CharSet) : Option Char :=
  match s.ranges with
  | [(a, b)] => if a = b then some (Char.ofNat a) else none
  | _ => none

end CharSet

end JobDispatch.Text
