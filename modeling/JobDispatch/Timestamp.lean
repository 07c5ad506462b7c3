import JobDispatch.Json.Reader
import JobDispatch.Text.Blank
import JobDispatch.Text.Decimal

/-! Points in time, in UTC. They are read from dates and times with an offset, blanks between the
parts allowed, and written with as few groups of three fractional digits as lose nothing. -/

namespace JobDispatch

/-- A second since the start of 1970 and the nanoseconds after it. In a leap second, which has no
number of its own, the nanoseconds go on past the end of the second before. -/
structure Timestamp where
  second : Int
  nano : Nat

namespace Timestamp

open Json (Reader)
open Text (decimal)

/-- The days from the start of 1970 to a date of the Gregorian calendar. Years are counted from
March, so that a leap day ends its year. -/
def dayOf (year month day : Int) : Int :=
  let y := if month ≤ 2 then year - 1 else year
  let era := y / 400
  let yearOfEra := y - era * 400
  let dayOfYear := (153 * ((month + 9) % 12) + 2) / 5 + day - 1
  era * 146097 + yearOfEra * 365 + yearOfEra / 4 - yearOfEra / 100 + dayOfYear - 719468

def dateOf (day : Int) : Int × Int × Int :=
  let z := day + 719468
  let era := z / 146097
  let dayOfEra := z - era * 146097
  let yearOfEra :=
    (dayOfEra - dayOfEra / 1460 + dayOfEra / 36524 - dayOfEra / 146096) / 365
  let dayOfYear := dayOfEra - (365 * yearOfEra + yearOfEra / 4 - yearOfEra / 100)
  let m := (5 * dayOfYear + 2) / 153
  let month := if m < 10 then m + 3 else m - 9
  let year := yearOfEra + era * 400
  (if month ≤ 2 then year + 1 else year, month, dayOfYear - (153 * m + 2) / 5 + 1)

def isLeap (year : Int) : Bool :=
  year % 4 = 0 && (year % 100 ≠ 0 || year % 400 = 0)

def daysIn (year : Int) : Nat → Nat
  | 2 => if isLeap year then 29 else 28
  | 4 | 6 | 9 | 11 => 30
  | _ => 31

def isYear (year : Int) : Bool := -262143 ≤ year && year ≤ 262142

def isDigit (c : Char) : Bool := '0' ≤ c && c ≤ '9'

def skipBlanks : List Char → List Char := List.dropWhile Text.isBlank

def number? (width : Nat) (cs : List Char) : Option (Nat × List Char) :=
  let cs := skipBlanks cs
  match (cs.take width).takeWhile isDigit with
  | [] => none
  | ds => some (decimal ds, cs.drop ds.length)

def year? (cs : List Char) : Option (Int × List Char) :=
  match skipBlanks cs with
  | '-' :: cs => signed (-1) cs
  | '+' :: cs => signed 1 cs
  | cs => (number? 4 cs).map fun (n, rest) => ((n : Int), rest)
where
  signed (sign : Int) (cs : List Char) : Option (Int × List Char) :=
    match cs.takeWhile isDigit with
    | [] => none
    | ds => some (sign * decimal ds, cs.drop ds.length)

def mark? (c : Char) (cs : List Char) : Option (List Char) :=
  match skipBlanks cs with
  | d :: rest => if d = c then some rest else none
  | [] => none

def fraction? : List Char → Option (Nat × List Char)
  | '.' :: cs =>
    match cs.takeWhile isDigit with
    | [] => none
    | ds =>
      let kept := ds.take 9
      some (decimal kept * Nat.pow 10 (9 - kept.length), cs.drop ds.length)
  | cs => some (0, cs)

def offset? (cs : List Char) : Option (Int × List Char) :=
  let cs := skipBlanks cs
  if (cs.take 3).map Char.toUpper = ['U', 'T', 'C'] then some (0, cs.drop 3)
  else
    match cs with
    | 'Z' :: rest => some (0, rest)
    | 'z' :: rest => some (0, rest)
    | '+' :: rest => minutes 1 rest
    | '-' :: rest => minutes (-1) rest
    | '\u2212' :: rest => minutes (-1) rest
    | _ => none
where
  minutes (sign : Int) : List Char → Option (Int × List Char)
    | a :: b :: rest =>
      if isDigit a && isDigit b then
        let hours := decimal [a, b]
        match rest.dropWhile fun c => c = ':' || Text.isBlank c with
        | c :: d :: rest =>
          if isDigit c && isDigit d && c < '6' then
            some (sign * (hours * 60 + decimal [c, d]), rest)
          else none
        | _ => none
      else none
    | _ => none

def ofChars? (cs : List Char) : Option Timestamp := do
  let (year, cs) ← year? cs
  let cs ← mark? '-' cs
  let (month, cs) ← number? 2 cs
  let cs ← mark? '-' cs
  let (day, cs) ← number? 2 cs
  let cs ← match cs with
    | 't' :: cs => some cs
    | 'T' :: cs => some cs
    | ' ' :: cs => some cs
    | _ => none
  let (hour, cs) ← number? 2 cs
  let cs ← mark? ':' cs
  let (minute, cs) ← number? 2 cs
  let cs ← mark? ':' cs
  let (second, cs) ← number? 2 cs
  let (nano, cs) ← fraction? cs
  let (offset, cs) ← offset? cs
  let minutes := dayOf year month day * 1440 + hour * 60 + minute - offset
  let valid := isYear year && 1 ≤ month && month ≤ 12 && 1 ≤ day && day ≤ daysIn year month &&
    hour < 24 && minute < 60 && second ≤ 60 && offset.natAbs < 1440 &&
    isYear (dateOf (minutes / 1440)).1 && (skipBlanks cs).isEmpty
  if valid then
    if second = 60 then some ⟨minutes * 60 + 59, nano + 1000000000⟩
    else some ⟨minutes * 60 + second, nano⟩
  else none

def padded (width n : Nat) : String :=
  let ds := toString n
  String.ofList (List.replicate (width - ds.length) '0') ++ ds

def yearText (year : Int) : String :=
  if 0 ≤ year && year ≤ 9999 then padded 4 year.toNat
  else (if year < 0 then "-" else "+") ++ padded 4 year.natAbs

def fractionText (nano : Nat) : String :=
  if nano = 0 then ""
  else if nano % 1000000 = 0 then "." ++ padded 3 (nano / 1000000)
  else if nano % 1000 = 0 then "." ++ padded 6 (nano / 1000)
  else "." ++ padded 9 nano

def textIn (zone : String) (t : Timestamp) : String :=
  let (year, month, day) := dateOf (t.second / 86400)
  let inDay := (t.second % 86400).toNat
  let leap := t.nano / 1000000000
  yearText year ++ "-" ++ padded 2 month.toNat ++ "-" ++ padded 2 day.toNat ++ "T" ++
    padded 2 (inDay / 3600) ++ ":" ++ padded 2 (inDay / 60 % 60) ++ ":" ++
    padded 2 (inDay % 60 + leap) ++ fractionText (t.nano % 1000000000) ++ zone

def stored (t : Timestamp) : String := t.textIn "Z"

def text (t : Timestamp) : String := t.textIn "+00:00"

def read : Reader Timestamp := fun o d => do
  let s ← Reader.text o d
  match ofChars? s.toList with
  | some t => .ok t
  | none => .error .malformed

end Timestamp

end JobDispatch
