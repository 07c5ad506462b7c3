import JobDispatch.Json.Number

/-! The tokens of a JSON text. Scanning stops at the first malformed token. A string whose escapes
spell no text, and a number beyond every double, are tokens without a value. -/

namespace JobDispatch.Json

inductive Token
  | openArray
  | closeArray
  | openObject
  | closeObject
  | comma
  | colon
  | null
  | bool (b : Bool)
  | number (n : Option Number)
  | text (s : Option String)
  | malformed

namespace Token

def isSpace (c : Char) : Bool :=
  c == ' ' || c == '\t' || c == '\n' || c == '\r'

inductive Piece
  | char (c : Char)
  | unit (n : Nat)

/-- Joins the pieces of a string, which are given last first. A leading surrogate needs a trailing
one after it. -/
def join (out : List Char) : List Piece → Option (List Char)
  | [] => some out
  | .char c :: rest => join (c :: out) rest
  | .unit n :: rest =>
    if 0xdc00 ≤ n && n < 0xe000 then
      match rest with
      | .unit m :: rest =>
        if 0xd800 ≤ m && m < 0xdc00 then
          join (Char.ofNat ((m - 0xd800) * 0x400 + (n - 0xdc00) + 0x10000) :: out) rest
        else none
      | _ => none
    else if 0xd800 ≤ n && n < 0xdc00 then none
    else join (Char.ofNat n :: out) rest

def hexValue? (c : Char) : Option Nat :=
  if '0' ≤ c && c ≤ '9' then some (c.toNat - 48)
  else if 'a' ≤ c && c ≤ 'f' then some (c.toNat - 87)
  else if 'A' ≤ c && c ≤ 'F' then some (c.toNat - 55)
  else none

def escape? : Char → Option Char
  | '"' => some '"'
  | '\\' => some '\\'
  | '/' => some '/'
  | 'b' => some '\x08'
  | 'f' => some '\x0c'
  | 'n' => some '\n'
  | 'r' => some '\r'
  | 't' => some '\t'
  | _ => none

/-- Where the scan of a string stands: outside an escape, after a backslash, or with `left` hex
digits of a unit to come. -/
inductive Spot
  | plain
  | escape
  | unit (left value : Nat)

def string (ps : List Piece) : Spot → List Char → Option (List Piece × List Char)
  | _, [] => none
  | .plain, c :: cs =>
    if c = '"' then some (ps, cs)
    else if c = '\\' then string ps .escape cs
    else if c.toNat < 0x20 then none
    else string (.char c :: ps) .plain cs
  | .escape, c :: cs =>
    if c = 'u' then string ps (.unit 4 0) cs
    else match escape? c with
      | some e => string (.char e :: ps) .plain cs
      | none => none
  | .unit left value, c :: cs =>
    match hexValue? c with
    | none => none
    | some d =>
      if left ≤ 1 then string (.unit (value * 16 + d) :: ps) .plain cs
      else string ps (.unit (left - 1) (value * 16 + d)) cs

theorem string_length {ps : List Piece} {spot : Spot} {cs : List Char} {r : List Piece × List Char}
    (h : string ps spot cs = some r) : r.2.length < cs.length := by
  induction cs generalizing ps spot with
  | nil => cases spot <;> simp [string] at h
  | cons c cs ih =>
    have step : ∀ {ps spot}, string ps spot cs = some r → r.2.length < (c :: cs).length :=
      fun h => Nat.lt_succ_of_lt (ih h)
    cases spot with
    | plain =>
      simp only [string] at h
      split at h
      · obtain rfl := Option.some.inj h
        simp
      · split at h
        · exact step h
        · split at h
          · simp at h
          · exact step h
    | escape =>
      simp only [string] at h
      split at h
      · exact step h
      · split at h
        · exact step h
        · simp at h
    | unit left value =>
      simp only [string] at h
      split at h
      · simp at h
      · split at h
        · exact step h
        · exact step h

def isDigit (c : Char) : Bool := '0' ≤ c && c ≤ '9'

def digits? (cs : List Char) : Option (List Char × List Char) :=
  match cs.takeWhile isDigit with
  | [] => none
  | ds => some (ds, cs.dropWhile isDigit)

def whole? (cs : List Char) : Option (List Char × List Char) := do
  let (ds, rest) ← digits? cs
  if ds.head? = some '0' && ds.length ≠ 1 then none else some (ds, rest)

def fraction? : List Char → Option (Option (List Char) × List Char)
  | '.' :: cs => (digits? cs).map fun (ds, rest) => (some ds, rest)
  | cs => some (none, cs)

def exponent? : List Char → Option (Option Int × List Char)
  | [] => some (none, [])
  | c :: cs =>
    if c = 'e' || c = 'E' then
      match cs with
      | '-' :: cs => (digits? cs).map fun (ds, rest) => (some (-(Text.decimal ds : Int)), rest)
      | '+' :: cs => (digits? cs).map fun (ds, rest) => (some (Text.decimal ds : Int), rest)
      | cs => (digits? cs).map fun (ds, rest) => (some (Text.decimal ds : Int), rest)
    else some (none, c :: cs)

def literal? (minus : Bool) (cs : List Char) : Option (Literal × List Char) := do
  let (whole, cs) ← whole? cs
  let (fraction, cs) ← fraction? cs
  let (exponent, cs) ← exponent? cs
  return (⟨minus, whole, fraction, exponent⟩, cs)

def ofNumber (minus : Bool) (cs : List Char) : Token × List Char :=
  match literal? minus cs with
  | some (l, rest) => (.number l.value?, rest)
  | none => (.malformed, [])

def word (expected : List Char) (token : Token) (cs : List Char) : Token × List Char :=
  if expected.isPrefixOf cs then (token, cs.drop expected.length) else (.malformed, [])

def next (c : Char) (cs : List Char) : Token × List Char :=
  match c with
  | '[' => (.openArray, cs)
  | ']' => (.closeArray, cs)
  | '\x7b' => (.openObject, cs)
  | '\x7d' => (.closeObject, cs)
  | ',' => (.comma, cs)
  | ':' => (.colon, cs)
  | 'n' => word ['u', 'l', 'l'] .null cs
  | 't' => word ['r', 'u', 'e'] (.bool true) cs
  | 'f' => word ['a', 'l', 's', 'e'] (.bool false) cs
  | '"' =>
    match string [] .plain cs with
    | some (ps, rest) => (.text ((join [] ps).map String.ofList), rest)
    | none => (.malformed, [])
  | '-' => ofNumber true cs
  | c => if isDigit c then ofNumber false (c :: cs) else (.malformed, [])

theorem digits?_length {cs : List Char} {r : List Char × List Char} (h : digits? cs = some r) :
    r.2.length < cs.length := by
  cases cs with
  | nil => simp [digits?] at h
  | cons c cs =>
    have drop : (cs.dropWhile isDigit).length ≤ cs.length := (List.dropWhile_suffix _).length_le
    by_cases hc : isDigit c
    · simp only [digits?, List.takeWhile_cons, hc, if_true, List.dropWhile_cons] at h
      obtain rfl := Option.some.inj h
      exact Nat.lt_succ_of_le drop
    · simp [digits?, hc] at h

theorem whole?_length {cs : List Char} {r : List Char × List Char} (h : whole? cs = some r) :
    r.2.length < cs.length := by
  simp only [whole?, Option.bind_eq_bind, Option.bind_eq_some_iff] at h
  obtain ⟨⟨ds, rest⟩, hd, h⟩ := h
  split at h
  · simp at h
  · obtain rfl := Option.some.inj h
    exact digits?_length hd

theorem fraction?_length {cs : List Char} {r : Option (List Char) × List Char}
    (h : fraction? cs = some r) : r.2.length ≤ cs.length := by
  unfold fraction? at h
  split at h
  · obtain ⟨_, hd, rfl⟩ := Option.map_eq_some_iff.1 h
    exact Nat.le_succ_of_le (Nat.le_of_lt (digits?_length hd))
  · obtain rfl := Option.some.inj h
    exact Nat.le_refl _

theorem exponent?_length {cs : List Char} {r : Option Int × List Char}
    (h : exponent? cs = some r) : r.2.length ≤ cs.length := by
  unfold exponent? at h
  split at h
  · obtain rfl := Option.some.inj h
    exact Nat.le_refl _
  · split at h
    · split at h <;> obtain ⟨_, hd, rfl⟩ := Option.map_eq_some_iff.1 h <;>
        have := digits?_length hd <;> simp only [List.length_cons] at * <;> omega
    · obtain rfl := Option.some.inj h
      exact Nat.le_refl _

theorem literal?_length {minus : Bool} {cs : List Char} {r : Literal × List Char}
    (h : literal? minus cs = some r) : r.2.length < cs.length := by
  simp only [literal?, Option.bind_eq_bind, Option.bind_eq_some_iff] at h
  obtain ⟨_, hw, _, hf, _, he, h⟩ := h
  obtain rfl := Option.some.inj h
  have := whole?_length hw
  have := fraction?_length hf
  have := exponent?_length he
  simp only at *
  omega

theorem ofNumber_length (minus : Bool) (cs : List Char) :
    (ofNumber minus cs).2.length < cs.length ∨ (ofNumber minus cs).2 = [] := by
  unfold ofNumber
  split
  · rename_i h
    exact .inl (literal?_length h)
  · exact .inr rfl

theorem word_length (expected : List Char) (token : Token) (cs : List Char) :
    (word expected token cs).2.length ≤ cs.length := by
  unfold word
  split <;> simp

theorem next_length (c : Char) (cs : List Char) : (next c cs).2.length ≤ cs.length := by
  unfold next
  split <;> try simp only [Nat.le_refl]
  · exact word_length _ _ _
  · exact word_length _ _ _
  · exact word_length _ _ _
  · split
    · rename_i h
      exact Nat.le_of_lt (string_length h)
    · simp
  · rcases ofNumber_length true cs with h | h
    · exact Nat.le_of_lt h
    · simp [h]
  · split
    · rcases ofNumber_length false (c :: cs) with h | h
      · exact Nat.le_of_lt_succ h
      · simp [h]
    · simp

end Token

end JobDispatch.Json
