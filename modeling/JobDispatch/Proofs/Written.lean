import JobDispatch.Json.Document
import JobDispatch.Json.Written
import Mathlib

/-! What is read of the text that a value is written to. Each token ends where the next character
says so, and the text gives the document of the value, with each float as its literal is read. -/

namespace JobDispatch.Json

open Text Token

section Digits

lemma isDigit_of_mem_toDigits {n : ℕ} {c : Char} (h : c ∈ Nat.toDigits 10 n) :
    isDigit c = true := by
  have hc := Nat.isDigit_of_mem_toDigits (by decide) (by decide) h
  simpa [isDigit, Char.isDigit, Char.le_def] using hc

lemma decimal_toDigits (n : ℕ) : decimal (Nat.toDigits 10 n) = n := by
  have hd : decimal (Nat.toDigits 10 n) = Nat.ofDigitChars 10 (Nat.toDigits 10 n) 0 := by
    simp only [decimal, Nat.ofDigitChars, digitValue, Nat.mul_comm]
    rfl
  rw [hd, Nat.ofDigitChars_ten_toDigits]

lemma eq_zero_of_head?_toDigits {n : ℕ} (h : (Nat.toDigits 10 n).head? = some '0') : n = 0 := by
  induction n using Nat.strong_induction_on with
  | _ n ih =>
    rw [Nat.toDigits_eq_if (by decide)] at h
    split_ifs at h with hn
    · interval_cases n <;> first | rfl | simp [Nat.digitChar] at h
    · rw [List.head?_append_of_ne_nil _ Nat.toDigits_ne_nil] at h
      have hz := ih (n / 10) (by omega) h
      omega

end Digits

def NoDigit (cs : List Char) : Prop :=
  ∀ c, cs.head? = some c → isDigit c = false

def Follows (cs : List Char) : Prop :=
  ∀ c, cs.head? = some c → c = ',' ∨ c = ']' ∨ c = '\x7d'

lemma Follows.noDigit {cs : List Char} (h : Follows cs) : NoDigit cs := by
  intro c hc
  rcases h c hc with rfl | rfl | rfl <;> rfl

def Gives (cs : List Char) (t : Token) (rest : List Char) : Prop :=
  ∃ c cs', cs = c :: cs' ∧ isSpace c = false ∧ next c cs' = (t, rest)

structure Literal.Formed (l : Literal) : Prop where
  whole_ne_nil : l.whole ≠ []
  whole : ∀ c ∈ l.whole, isDigit c = true
  zero : l.whole.head? = some '0' → l.whole.length = 1
  fraction_ne_nil : l.fraction ≠ some []
  fraction : ∀ ds, l.fraction = some ds → ∀ c ∈ ds, isDigit c = true

def Literal.ReadsAs (l : Literal) (x : Float) : Prop :=
  l.Formed ∧ l.value? = some (.float x)

section Numbers

variable {ds rest : List Char}

lemma digits?_append (hne : ds ≠ []) (hd : ∀ c ∈ ds, isDigit c = true) (hr : NoDigit rest) :
    digits? (ds ++ rest) = some (ds, rest) := by
  have htake : (ds ++ rest).takeWhile isDigit = ds := by
    rw [List.takeWhile_append_of_pos hd]
    cases rest with
    | nil => simp
    | cons c rest => simp [hr c rfl]
  have hdrop : (ds ++ rest).dropWhile isDigit = rest := by
    rw [List.dropWhile_append_of_pos hd]
    cases rest with
    | nil => rfl
    | cons c rest => simp [hr c rfl]
  obtain ⟨d, ds, rfl⟩ := List.exists_cons_of_ne_nil hne
  rw [digits?, htake, hdrop]

variable {l : Literal}

lemma whole?_append (h : l.Formed) (hr : NoDigit rest) :
    whole? (l.whole ++ rest) = some (l.whole, rest) := by
  have hz : ¬ (l.whole.head? = some '0' ∧ l.whole.length ≠ 1) := fun ⟨hh, hn⟩ => hn (h.zero hh)
  rw [whole?, digits?_append h.whole_ne_nil h.whole hr]
  simpa using hz

lemma fraction?_append (h : l.Formed) (hr : NoDigit rest) (hp : rest.head? ≠ some '.') :
    fraction? (fractionChars l.fraction ++ rest) = some (l.fraction, rest) := by
  cases hf : l.fraction with
  | none =>
    rw [fractionChars, List.nil_append]
    unfold fraction?
    split
    · simp at hp
    · rfl
  | some ds =>
    have hne : ds ≠ [] := fun hn => h.fraction_ne_nil (hn ▸ hf)
    rw [fractionChars, List.cons_append, fraction?,
      digits?_append hne (h.fraction ds hf) hr]
    rfl

lemma exponent?_digit {d : Char} {ds : List Char} (h : isDigit d = true) :
    exponent? ('e' :: d :: ds) =
      (digits? (d :: ds)).map fun (ds, rest) => (some (decimal ds : ℤ), rest) := by
  have hminus : d ≠ '-' := by rintro rfl; cases h
  have hplus : d ≠ '+' := by rintro rfl; cases h
  simp [exponent?, hminus, hplus]

lemma exponent?_append (e : Option ℤ) (hr : Follows rest) :
    exponent? (exponentChars e ++ rest) = some (e, rest) := by
  have hdigits (n : ℕ) : digits? (Nat.toDigits 10 n ++ rest) = some (Nat.toDigits 10 n, rest) :=
    digits?_append Nat.toDigits_ne_nil (fun _ => isDigit_of_mem_toDigits) hr.noDigit
  rcases e with _ | n | n
  · cases rest with
    | nil => rfl
    | cons c rest =>
      refine if_neg ?_
      rcases hr c rfl with rfl | rfl | rfl <;> decide
  · have htext : (toString (Int.ofNat n)).toList = Nat.toDigits 10 n := Nat.toList_repr
    obtain ⟨d, ds, hds⟩ := List.exists_cons_of_ne_nil (Nat.toDigits_ne_nil (b := 10) (n := n))
    have hdigit : isDigit d = true := isDigit_of_mem_toDigits (hds ▸ List.mem_cons_self)
    have hd := hdigits n
    rw [hds, List.cons_append] at hd
    -- a digit stands where a sign could
    rw [exponentChars, htext, hds, List.cons_append, List.cons_append, exponent?_digit hdigit,
      hd, ← hds]
    simp [decimal_toDigits]
  · have htext : (toString (Int.negSucc n)).toList = '-' :: Nat.toDigits 10 (n + 1) := by
      rw [← Nat.toList_repr]
      exact String.toList_append
    rw [exponentChars, htext]
    simp [exponent?, hdigits, decimal_toDigits, Int.negSucc_eq]

lemma literal?_append (h : l.Formed) (hr : Follows rest) :
    literal? l.minus
      (l.whole ++ (fractionChars l.fraction ++ (exponentChars l.exponent ++ rest))) =
        some (l, rest) := by
  have hexponent : NoDigit (exponentChars l.exponent ++ rest) ∧
      (exponentChars l.exponent ++ rest).head? ≠ some '.' := by
    cases l.exponent with
    | none => exact ⟨hr.noDigit, fun hc => by simpa using hr _ hc⟩
    | some e => exact ⟨by rintro _ ⟨⟩; rfl, by simp [exponentChars]⟩
  have hfraction : NoDigit (fractionChars l.fraction ++ (exponentChars l.exponent ++ rest)) := by
    cases l.fraction with
    | none => exact hexponent.1
    | some ds => rintro _ ⟨⟩; rfl
  rw [literal?, whole?_append h hfraction]
  simp [fraction?_append h hexponent.1 hexponent.2, exponent?_append _ hr]

lemma next_digit {c : Char} {cs : List Char} (h : isDigit c = true) :
    next c cs = ofNumber false (c :: cs) := by
  unfold next
  split <;> first | cases h | rw [if_pos h]

lemma isSpace_digit {c : Char} (h : isDigit c = true) : isSpace c = false := by
  by_contra hs
  simp only [isSpace, Bool.not_eq_false, Bool.or_eq_true, beq_iff_eq] at hs
  rcases hs with ((rfl | rfl) | rfl) | rfl <;> cases h

lemma gives_literal (h : l.Formed) (hr : Follows rest) :
    Gives (l.chars ++ rest) (.number l.value?) rest := by
  have hliteral := literal?_append h hr
  obtain ⟨d, ds, hds⟩ := List.exists_cons_of_ne_nil h.whole_ne_nil
  have hdigit : isDigit d = true := h.whole d (hds ▸ List.mem_cons_self)
  cases hm : l.minus with
  | false =>
    refine ⟨d, ds ++ (fractionChars l.fraction ++ (exponentChars l.exponent ++ rest)),
      by simp [Literal.chars, hm, hds], isSpace_digit hdigit, ?_⟩
    rw [hm, hds, List.cons_append] at hliteral
    rw [next_digit hdigit, ofNumber, hliteral]
  | true =>
    refine ⟨'-', l.whole ++ (fractionChars l.fraction ++ (exponentChars l.exponent ++ rest)),
      by simp [Literal.chars, hm], rfl, ?_⟩
    rw [hm] at hliteral
    show ofNumber true _ = _
    rw [ofNumber, hliteral]

end Numbers

section Literals

variable {spell : Float → Literal} {f : Float → Float}

lemma formed_integer (minus : Bool) (n : ℕ) :
    (⟨minus, Nat.toDigits 10 n, none, none⟩ : Literal).Formed where
  whole_ne_nil := Nat.toDigits_ne_nil
  whole _ := isDigit_of_mem_toDigits
  zero h := by
    obtain rfl := eq_zero_of_head?_toDigits h
    rfl
  fraction_ne_nil := nofun
  fraction := nofun

lemma value?_literal {n : Number} (h : ∀ x ∈ n.floats, (spell x).ReadsAs (f x)) :
    (n.literal spell).Formed ∧ (n.literal spell).value? = some (n.mapFloats f) := by
  cases n with
  | natural n =>
    refine ⟨formed_integer _ _, ?_⟩
    have hn : n.toNat < UInt64.size := n.toNat_lt
    simp [Number.literal, Literal.value?, Literal.isInteger, decimal_toDigits, hn,
      Number.mapFloats]
  | negative n =>
    obtain ⟨n, hn⟩ := n
    refine ⟨formed_integer _ _, ?_⟩
    have hneg : n.toInt < 0 := by simpa [Int64.lt_iff_toInt_lt] using hn
    have hpos : 0 < n.toInt.natAbs := by omega
    have hle : n.toInt.natAbs ≤ UInt64.size / 2 := by
      have := n.le_toInt
      simp [UInt64.size]
      omega
    simp [Number.literal, Literal.value?, Literal.isInteger, decimal_toDigits, hpos, hle,
      abs_of_neg hneg, Number.mapFloats]
  | float x => exact h x (by simp [Number.floats])

end Literals

section Strings

variable {ps : List Piece} {cs : List Char}

lemma hexValue?_hexDigit {n : ℕ} (h : n < 16) : hexValue? (hexDigit n) = some n := by
  interval_cases n <;> rfl

lemma join_unit {n : ℕ} {out : List Char} (h : n < 0xd800) :
    join out (.unit n :: ps) = join (.ofNat n :: out) ps := by
  have htrailing : (0xdc00 ≤ n && n < 0xe000) = false := by simp; omega
  have hleading : (0xd800 ≤ n && n < 0xdc00) = false := by simp; omega
  rw [join.eq_def]
  simp [htrailing, hleading]

lemma string_escapedChar (c : Char) :
    ∃ p, (∀ out ps, join out (p :: ps) = join (c :: out) ps) ∧
      ∀ ps cs, string ps .plain (escapedChar c ++ cs) = string (p :: ps) .plain cs := by
  unfold escapedChar
  split
  case h_8 hquote hbackslash _ _ _ _ _ =>
    -- a control without a letter comes back as a unit
    split_ifs with hc
    · refine ⟨.unit c.toNat, fun out ps => ?_, fun ps cs => ?_⟩
      · rw [join_unit (by omega), Char.ofNat_toNat]
      · have hhigh := hexValue?_hexDigit (n := c.toNat / 16) (by omega)
        have hlow := hexValue?_hexDigit (n := c.toNat % 16) (by omega)
        have hzero : hexValue? '0' = some 0 := rfl
        simp [string, hzero, hhigh, hlow, Nat.div_add_mod']
    · refine ⟨.char c, fun _ _ => rfl, fun ps cs => ?_⟩
      simp [string, hc, if_neg hquote, if_neg hbackslash]
  all_goals exact ⟨.char _, fun _ _ => rfl, fun _ _ => rfl⟩

lemma string_escaped (cs : List Char) (ps : List Piece) (rest : List Char) :
    ∃ qs, string ps .plain (cs.flatMap escapedChar ++ '"' :: rest) = some (qs ++ ps, rest) ∧
      ∀ out ps, join out (qs ++ ps) = join (cs ++ out) ps := by
  induction cs generalizing ps with
  | nil => exact ⟨[], rfl, fun _ _ => rfl⟩
  | cons c cs ih =>
    obtain ⟨p, hjoin, hstring⟩ := string_escapedChar c
    obtain ⟨qs, hqs, hjoins⟩ := ih (p :: ps)
    refine ⟨qs ++ [p], ?_, fun out ps => ?_⟩
    · rw [List.flatMap_cons, List.append_assoc, hstring, hqs, List.append_assoc]
      rfl
    · rw [List.append_assoc, List.singleton_append, hjoins, hjoin]
      rfl

lemma gives_escaped (s : String) (rest : List Char) :
    Gives (escaped s ++ rest) (.text (some s)) rest := by
  obtain ⟨qs, hqs, hjoins⟩ := string_escaped s.toList [] rest
  have hjoin : join [] qs = some s.toList := by simpa [join] using hjoins [] []
  refine ⟨'"', s.toList.flatMap escapedChar ++ '"' :: rest, by simp [escaped], rfl, ?_⟩
  simp [next, hqs, hjoin]

end Strings

namespace Document

def resume : Step → List Char → Document × List Char
  | .go place frames, cs => parse place frames cs
  | .stop d, cs => (d, cs)

section Values

variable {spell : Float → Literal} {f : Float → Float} {place : Place} {frames : List Frame}
  {t : Token} {cs rest : List Char}

lemma parse_of_gives (h : Gives cs t rest) :
    parse place frames cs = resume (advance place frames t) rest := by
  obtain ⟨c, cs, rfl, hspace, hnext⟩ := h
  rw [parse, hspace, if_neg Bool.false_ne_true]
  split
  next t' rest' hnext' =>
    obtain ⟨rfl, rfl⟩ := Prod.mk.inj (hnext'.symm.trans hnext)
    cases advance place frames t' <;> rfl

def Place.Awaits (place : Place) : Prop :=
  place = .value ∨ place = .firstItem

lemma parse_value (hp : place.Awaits) (h : Gives cs t rest) (ht : t ≠ .closeArray) :
    parse place frames cs = resume (value frames t) rest := by
  rw [parse_of_gives h]
  rcases hp with rfl | rfl
  · rfl
  · cases t <;> first | rfl | exact absurd rfl ht

lemma follows_restChars (vs : List Json) : Follows (restChars spell vs ++ rest) := by
  cases vs with
  | nil => rintro _ ⟨⟩; simp
  | cons v vs => rintro _ ⟨⟩; simp

lemma follows_otherChars (ms : List (String × Json)) : Follows (otherChars spell ms ++ rest) := by
  cases ms with
  | nil => rintro _ ⟨⟩; simp
  | cons m ms => rintro _ ⟨⟩; simp

def Parses (spell : Float → Literal) (f : Float → Float) (v : Json) : Prop :=
  ∀ place frames rest, place.Awaits → Follows rest →
    parse place frames (v.chars spell ++ rest) =
      resume (deliver (ofJson (v.mapFloats f)) frames) rest

section Items

variable {vs : List Json}

lemma parse_restChars (h : ∀ v ∈ vs, Parses spell f v) (ds : List Document) :
    parse .separator (.array ds :: frames) (restChars spell vs ++ rest) =
      resume (deliver (.array (ds.reverse ++ ofItems (mapItems f vs)) .closed) frames) rest := by
  induction vs generalizing ds with
  | nil =>
    have hclose : Gives (']' :: rest) .closeArray rest := ⟨_, _, rfl, rfl, rfl⟩
    rw [mapItems, ofItems, List.append_nil]
    exact parse_of_gives hclose
  | cons v vs ih =>
    obtain ⟨hv, hvs⟩ := List.forall_mem_cons.mp h
    have hcomma : Gives (',' :: (v.chars spell ++ (restChars spell vs ++ rest))) .comma
        (v.chars spell ++ (restChars spell vs ++ rest)) := ⟨_, _, rfl, rfl, rfl⟩
    calc parse .separator (.array ds :: frames) (restChars spell (v :: vs) ++ rest)
      _ = parse .value (.array ds :: frames) (v.chars spell ++ (restChars spell vs ++ rest)) := by
        rw [restChars, List.cons_append, List.append_assoc]
        exact parse_of_gives hcomma
      _ = parse .separator (.array (ofJson (v.mapFloats f) :: ds) :: frames)
          (restChars spell vs ++ rest) := hv _ _ _ (.inl rfl) (follows_restChars vs)
      _ = _ := by
        rw [ih hvs, List.reverse_cons, List.append_assoc]
        rfl

lemma parse_itemChars (h : ∀ v ∈ vs, Parses spell f v) :
    parse .firstItem (.array [] :: frames) (itemChars spell vs ++ rest) =
      resume (deliver (.array (ofItems (mapItems f vs)) .closed) frames) rest := by
  cases vs with
  | nil =>
    have hclose : Gives (']' :: rest) .closeArray rest := ⟨_, _, rfl, rfl, rfl⟩
    exact parse_of_gives hclose
  | cons v vs =>
    obtain ⟨hv, hvs⟩ := List.forall_mem_cons.mp h
    rw [itemChars, List.append_assoc, hv _ _ _ (.inr rfl) (follows_restChars vs)]
    exact parse_restChars hvs [_]

end Items

section Members

variable {ms : List (String × Json)} {v : Json}

lemma parse_member (hp : place = .firstKey ∨ place = .key) (h : Parses spell f v) (k : String)
    (ds : List (Option String × Document)) (hr : Follows rest) :
    parse place (.object ds none :: frames) (escaped k ++ ':' :: (v.chars spell ++ rest)) =
      parse .separator (.object ((some k, ofJson (v.mapFloats f)) :: ds) none :: frames) rest := by
  have hcolon : Gives (':' :: (v.chars spell ++ rest)) .colon (v.chars spell ++ rest) :=
    ⟨_, _, rfl, rfl, rfl⟩
  calc parse place (.object ds none :: frames) (escaped k ++ ':' :: (v.chars spell ++ rest))
    _ = parse .colon (.object ds (some k) :: frames) (':' :: (v.chars spell ++ rest)) := by
      rw [parse_of_gives (gives_escaped k _)]
      rcases hp with rfl | rfl <;> rfl
    _ = parse .value (.object ds (some k) :: frames) (v.chars spell ++ rest) :=
      parse_of_gives hcolon
    _ = _ := h _ _ _ (.inl rfl) hr

lemma parse_otherChars (h : ∀ m ∈ ms, Parses spell f m.2) (ds : List (Option String × Document)) :
    parse .separator (.object ds none :: frames) (otherChars spell ms ++ rest) =
      resume (deliver (.object (ds.reverse ++ ofMembers (mapMembers f ms)) .closed) frames)
        rest := by
  induction ms generalizing ds with
  | nil =>
    have hclose : Gives ('\x7d' :: rest) .closeObject rest := ⟨_, _, rfl, rfl, rfl⟩
    rw [mapMembers, ofMembers, List.append_nil]
    exact parse_of_gives hclose
  | cons m ms ih =>
    obtain ⟨k, v⟩ := m
    obtain ⟨hv, hms⟩ := List.forall_mem_cons.mp h
    set after := otherChars spell ms ++ rest
    have hcomma : Gives (',' :: (escaped k ++ ':' :: (v.chars spell ++ after))) .comma
        (escaped k ++ ':' :: (v.chars spell ++ after)) := ⟨_, _, rfl, rfl, rfl⟩
    calc parse .separator (.object ds none :: frames) (otherChars spell ((k, v) :: ms) ++ rest)
      _ = parse .key (.object ds none :: frames)
          (escaped k ++ ':' :: (v.chars spell ++ after)) := by
        rw [otherChars, List.cons_append, List.append_assoc, List.cons_append, List.append_assoc]
        exact parse_of_gives hcomma
      _ = parse .separator (.object ((some k, ofJson (v.mapFloats f)) :: ds) none :: frames)
          after := parse_member (.inr rfl) hv k ds (follows_otherChars ms)
      _ = _ := by
        rw [ih hms, List.reverse_cons, List.append_assoc]
        rfl

lemma parse_memberChars (h : ∀ m ∈ ms, Parses spell f m.2) :
    parse .firstKey (.object [] none :: frames) (memberChars spell ms ++ rest) =
      resume (deliver (.object (ofMembers (mapMembers f ms)) .closed) frames) rest := by
  cases ms with
  | nil =>
    have hclose : Gives ('\x7d' :: rest) .closeObject rest := ⟨_, _, rfl, rfl, rfl⟩
    exact parse_of_gives hclose
  | cons m ms =>
    obtain ⟨k, v⟩ := m
    obtain ⟨hv, hms⟩ := List.forall_mem_cons.mp h
    rw [memberChars, List.append_assoc, List.cons_append, List.append_assoc,
      parse_member (.inl rfl) hv k [] (follows_otherChars ms)]
    exact parse_otherChars hms [_]

end Members

mutual

lemma parses : ∀ v : Json, (∀ x ∈ v.floats, (spell x).ReadsAs (f x)) → Parses spell f v
  | .null, _, _, _, _, hp, _ => parse_value hp (t := .null) ⟨_, _, rfl, rfl, rfl⟩ nofun
  | .bool true, _, _, _, _, hp, _ => parse_value hp (t := .bool true) ⟨_, _, rfl, rfl, rfl⟩ nofun
  | .bool false, _, _, _, _, hp, _ => parse_value hp (t := .bool false) ⟨_, _, rfl, rfl, rfl⟩ nofun
  | .number n, hv, _, _, _, hp, hr => by
    obtain ⟨hformed, hvalue⟩ := value?_literal hv
    have hgives := gives_literal hformed hr
    rw [hvalue] at hgives
    exact parse_value hp hgives nofun
  | .text s, _, _, _, _, hp, _ => parse_value hp (gives_escaped s _) nofun
  | .array vs, hv, _, _, rest, hp, _ => by
    have hopen : Gives ('[' :: (itemChars spell vs ++ rest)) .openArray
        (itemChars spell vs ++ rest) := ⟨_, _, rfl, rfl, rfl⟩
    exact (parse_value hp hopen nofun).trans (parse_itemChars (parses_items vs hv))
  | .object ms, hv, _, _, rest, hp, _ => by
    have hopen : Gives ('\x7b' :: (memberChars spell ms ++ rest)) .openObject
        (memberChars spell ms ++ rest) := ⟨_, _, rfl, rfl, rfl⟩
    exact (parse_value hp hopen nofun).trans (parse_memberChars (parses_members ms hv))

lemma parses_items : ∀ vs : List Json, (∀ x ∈ itemFloats vs, (spell x).ReadsAs (f x)) →
    ∀ v ∈ vs, Parses spell f v
  | [], _ => by simp
  | v :: vs, h => by
    rw [itemFloats, List.forall_mem_append] at h
    exact List.forall_mem_cons.mpr ⟨parses v h.1, parses_items vs h.2⟩

lemma parses_members : ∀ ms : List (String × Json),
    (∀ x ∈ memberFloats ms, (spell x).ReadsAs (f x)) → ∀ m ∈ ms, Parses spell f m.2
  | [], _ => by simp
  | (_, v) :: ms, h => by
    rw [memberFloats, List.forall_mem_append] at h
    exact List.forall_mem_cons.mpr ⟨parses v h.1, parses_members ms h.2⟩

end

lemma ofChars_written {v : Json} (h : ∀ x ∈ v.floats, (spell x).ReadsAs (f x)) :
    ofChars (v.written spell).toList = (ofJson (v.mapFloats f), true) := by
  have hparse := parses v h .value [] [] (.inl rfl) nofun
  rw [List.append_nil] at hparse
  rw [written, String.toList_ofList, ofChars, hparse]
  rfl

-- The literal that is nearest to a float may be read as another one.
example : (⟨false, ['5'], some "0000000000000004".toList, some 32⟩ : Literal).float? = some 5e32 ∧
    (5.0000000000000004e32 : Float) ≠ 5e32 := by
  decide +kernel

end Values

end Document

section MapFloats

variable {f : Float → Float}

lemma mem_memberFloats {x : Float} {ms : List (String × Json)} :
    x ∈ memberFloats ms ↔ ∃ m ∈ ms, x ∈ m.2.floats := by
  induction ms with
  | nil => simp [memberFloats]
  | cons m ms ih => simp [memberFloats, ih]

lemma itemFloats_eq_flatMap (vs : List Json) : itemFloats vs = vs.flatMap floats := by
  induction vs with
  | nil => rfl
  | cons v vs ih => rw [itemFloats, ih, List.flatMap_cons]

lemma mapItems_eq_map (f : Float → Float) (vs : List Json) :
    mapItems f vs = vs.map (mapFloats f) := by
  induction vs with
  | nil => rfl
  | cons v vs ih => rw [mapItems, ih, List.map_cons]

mutual

lemma mapFloats_eq_self : ∀ v : Json, (∀ x ∈ v.floats, f x = x) → v.mapFloats f = v
  | .null, _ | .bool _, _ | .text _, _ => rfl
  | .number (.natural _), _ | .number (.negative _), _ => rfl
  | .number (.float x), h => by
    rw [mapFloats, Number.mapFloats, h x (by simp [floats, Number.floats])]
  | .array vs, h => congrArg Json.array (mapItems_eq_self vs h)
  | .object ms, h => congrArg Json.object (mapMembers_eq_self ms h)

lemma mapItems_eq_self : ∀ vs : List Json, (∀ x ∈ itemFloats vs, f x = x) → mapItems f vs = vs
  | [], _ => rfl
  | v :: vs, h => by
    rw [itemFloats, List.forall_mem_append] at h
    rw [mapItems, mapFloats_eq_self v h.1, mapItems_eq_self vs h.2]

lemma mapMembers_eq_self : ∀ ms : List (String × Json), (∀ x ∈ memberFloats ms, f x = x) →
    mapMembers f ms = ms
  | [], _ => rfl
  | (_, v) :: ms, h => by
    rw [memberFloats, List.forall_mem_append] at h
    rw [mapMembers, mapFloats_eq_self v h.1, mapMembers_eq_self ms h.2]

end

end MapFloats

end JobDispatch.Json
