import JobDispatch.Text.Decimal

/-! Numbers of JSON texts. Syntax decides the kind: an integer literal that fits 64 bits is an
integer, and every other number is a float. -/

namespace JobDispatch.Json

open Text (digitValue decimal)

inductive Number
  | natural (n : UInt64)
  | negative (n : { n : Int64 // n < 0 })
  | float (x : Float)

theorem ofInt_neg_lt_zero {n : Nat} (hn : 0 < n) (h : n ≤ UInt64.size / 2) :
    Int64.ofInt (-n) < 0 := by
  rw [Int64.lt_iff_toInt_lt, Int64.toInt_ofInt_of_le] <;> simp [UInt64.size] at * <;> omega

structure Literal where
  minus : Bool
  whole : List Char
  fraction : Option (List Char)
  exponent : Option Int

def significand (cs : List Char) : Nat × Nat :=
  cs.foldl
    (fun (s, left) c =>
      let s' := s * 10 + digitValue c
      if left = 0 && s' < UInt64.size then (s', 0) else (s, left + 1))
    (0, 0)

def powerOfTen (n : Nat) : Float := Float.ofScientific 1 false n

/-- `x` times ten to the power `e`, or nothing when that exceeds every double. Powers beyond 308
are taken in steps, and two steps down leave zero. -/
def scale (x : Float) (e : Int) : Option Float :=
  if x == 0 then some x
  else if 0 ≤ e then
    if e ≤ 308 then
      let y := x * powerOfTen e.toNat
      if y.isInf then none else some y
    else none
  else
    let n := (-e).toNat
    if n ≤ 308 then some (x / powerOfTen n)
    else if n ≤ 616 then some (x / powerOfTen 308 / powerOfTen (n - 308))
    else some 0

def Literal.float? (l : Literal) : Option Float :=
  let fraction := l.fraction.getD []
  let (s, left) := significand (l.whole ++ fraction)
  let e := l.exponent.getD 0 - fraction.length + left
  (scale s.toUInt64.toFloat e).map fun x => if l.minus then -x else x

def Literal.isInteger (l : Literal) : Bool :=
  l.fraction.isNone && l.exponent.isNone

def Literal.value? (l : Literal) : Option Number :=
  let n := decimal l.whole
  if l.isInteger && !l.minus && n < UInt64.size then some (.natural n.toUInt64)
  else if h : (l.isInteger && l.minus) ∧ 0 < n ∧ n ≤ UInt64.size / 2 then
    some (.negative ⟨Int64.ofInt (-n), ofInt_neg_lt_zero h.2.1 h.2.2⟩)
  else l.float?.map .float

def Number.isZero : Number → Bool
  | .natural n => n == 0
  | .negative _ => false
  | .float x => x == 0

end JobDispatch.Json
