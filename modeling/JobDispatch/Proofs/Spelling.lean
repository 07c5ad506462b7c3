import JobDispatch.Proofs.Written

/-! Where the floats of a document come from: each has a literal in the text. -/

namespace JobDispatch.Json

open Text Token

section Literals

variable {cs ds rest : List Char} {l : Literal}

lemma digits?_formed (h : digits? cs = some (ds, rest)) :
    ds ≠ [] ∧ ∀ c ∈ ds, isDigit c = true := by
  unfold digits? at h
  split at h
  · cases h
  · next hne =>
    obtain ⟨rfl, rfl⟩ := Prod.mk.inj (Option.some.inj h)
    exact ⟨hne, fun c hc => List.mem_takeWhile_imp hc⟩

lemma whole?_formed (h : whole? cs = some (ds, rest)) :
    ds ≠ [] ∧ (∀ c ∈ ds, isDigit c = true) ∧ (ds.head? = some '0' → ds.length = 1) := by
  simp only [whole?, Option.bind_eq_bind, Option.bind_eq_some_iff] at h
  obtain ⟨⟨ds', rest'⟩, hds, h⟩ := h
  split_ifs at h with hz
  obtain ⟨rfl, rfl⟩ := Prod.mk.inj (Option.some.inj h)
  obtain ⟨hne, hdigits⟩ := digits?_formed hds
  exact ⟨hne, hdigits, fun hh => by simpa [hh] using hz⟩

lemma fraction?_formed {fraction : Option (List Char)} (h : fraction? cs = some (fraction, rest)) :
    ∀ ds, fraction = some ds → ds ≠ [] ∧ ∀ c ∈ ds, isDigit c = true := by
  unfold fraction? at h
  split at h
  · obtain ⟨⟨ds, rest'⟩, hds, h⟩ := Option.map_eq_some_iff.mp h
    obtain ⟨rfl, rfl⟩ := Prod.mk.inj h
    rintro _ ⟨⟩
    exact digits?_formed hds
  · obtain ⟨rfl, rfl⟩ := Prod.mk.inj (Option.some.inj h)
    exact nofun

lemma literal?_formed {minus : Bool} (h : literal? minus cs = some (l, rest)) : l.Formed := by
  simp only [literal?, Option.bind_eq_bind, Option.bind_eq_some_iff] at h
  obtain ⟨⟨whole, _⟩, hw, ⟨fraction, _⟩, hf, ⟨exponent, _⟩, -, h⟩ := h
  obtain ⟨rfl, rfl⟩ := Prod.mk.inj (Option.some.inj h)
  obtain ⟨hne, hdigits, hzero⟩ := whole?_formed hw
  have hfraction := fraction?_formed hf
  exact ⟨hne, hdigits, hzero, fun hn => (hfraction [] hn).1 rfl, fun ds hds => (hfraction ds hds).2⟩

lemma ofNumber_formed {minus : Bool} {n : Option Number}
    (h : ofNumber minus cs = (.number n, rest)) : ∃ l : Literal, l.Formed ∧ n = l.value? := by
  unfold ofNumber at h
  split at h
  · next l _ hl =>
    cases h
    exact ⟨l, literal?_formed hl, rfl⟩
  · cases h

lemma next_formed {c : Char} {n : Option Number} (h : next c cs = (.number n, rest)) :
    ∃ l : Literal, l.Formed ∧ n = l.value? := by
  unfold next at h
  split at h
  case h_7 | h_8 | h_9 =>
    unfold word at h
    split_ifs at h <;> cases h
  case h_10 =>
    split at h <;> cases h
  case h_11 => exact ofNumber_formed h
  case h_12 =>
    split_ifs at h
    · exact ofNumber_formed h
    · cases h
  all_goals cases h

end Literals

def Token.floats : Token → List Float
  | .number (some n) => n.floats
  | _ => []

namespace Document

mutual

def floats : Document → List Float
  | .number (some n) => n.floats
  | .array items _ => itemFloats items
  | .object members _ => memberFloats members
  | _ => []

def itemFloats : List Document → List Float
  | [] => []
  | d :: ds => d.floats ++ itemFloats ds

def memberFloats : List (Option String × Document) → List Float
  | [] => []
  | (_, d) :: ms => d.floats ++ memberFloats ms

end

@[simp] lemma mem_itemFloats {x : Float} {ds : List Document} :
    x ∈ itemFloats ds ↔ ∃ d ∈ ds, x ∈ d.floats := by
  induction ds with
  | nil => simp [itemFloats]
  | cons d ds ih => simp [itemFloats, ih]

@[simp] lemma mem_memberFloats {x : Float} {ms : List (Option String × Document)} :
    x ∈ memberFloats ms ↔ ∃ m ∈ ms, x ∈ m.2.floats := by
  induction ms with
  | nil => simp [memberFloats]
  | cons m ms ih => simp [memberFloats, ih]

def Frame.floats : Frame → List Float
  | .array items => itemFloats items
  | .object members _ => memberFloats members

def Step.floats : Step → List Float
  | .go _ frames => frames.flatMap Frame.floats
  | .stop d => d.floats

@[simp] lemma Frame.floats_array (ds : List Document) : (Frame.array ds).floats = itemFloats ds :=
  rfl

@[simp] lemma Frame.floats_object (ms : List (Option String × Document)) (key : Option String) :
    (Frame.object ms key).floats = memberFloats ms := rfl

@[simp] lemma Step.floats_go (place : Place) (fs : List Frame) :
    (Step.go place fs).floats = fs.flatMap Frame.floats := rfl

@[simp] lemma Step.floats_stop (d : Document) : (Step.stop d).floats = d.floats := rfl

section Frames

variable {x : Float} {f : Frame} {fs : List Frame} {d : Document} {place : Place} {t : Token}

@[simp] lemma mem_floats_close {ending : Ending} : x ∈ (f.close ending).floats ↔ x ∈ f.floats := by
  cases f <;> simp [Frame.close, floats]

@[simp] lemma mem_floats_add : x ∈ (f.add d).floats ↔ x ∈ d.floats ∨ x ∈ f.floats := by
  cases f <;> simp [Frame.add]

lemma mem_floats_breakOff (h : x ∈ (breakOff d fs).floats) :
    x ∈ d.floats ∨ x ∈ fs.flatMap Frame.floats := by
  induction fs generalizing d with
  | nil => exact .inl h
  | cons f fs ih =>
    have hx := ih h
    simp only [mem_floats_close, mem_floats_add, List.flatMap_cons, List.mem_append] at hx ⊢
    tauto

lemma mem_floats_breakInside (h : x ∈ (breakInside fs).floats) : x ∈ fs.flatMap Frame.floats := by
  cases fs with
  | nil => simp [breakInside, floats] at h
  | cons f fs => simpa using mem_floats_breakOff h

@[simp] lemma mem_floats_deliver :
    x ∈ (deliver d fs).floats ↔ x ∈ d.floats ∨ x ∈ fs.flatMap Frame.floats := by
  cases fs <;> simp [deliver, or_assoc]

lemma mem_floats_value (h : x ∈ (value fs t).floats) :
    x ∈ t.floats ∨ x ∈ fs.flatMap Frame.floats := by
  cases t with
  | number n => cases n <;> simpa [value, floats, Token.floats] using h
  | closeArray | closeObject | comma | colon | malformed =>
    exact .inr (by simpa [floats] using mem_floats_breakOff h)
  | openArray | openObject =>
    exact .inr (by simpa [value] using h)
  | null | bool _ | text _ => exact .inr (by simpa [value, floats] using h)

lemma mem_floats_advance (h : x ∈ (advance place fs t).floats) :
    x ∈ t.floats ∨ x ∈ fs.flatMap Frame.floats := by
  unfold advance at h
  split at h
  case h_4 | h_6 | h_13 => exact .inr (mem_floats_breakInside h)
  case h_8 => exact .inr (by simpa [floats] using mem_floats_breakOff h)
  case h_14 => exact mem_floats_value h
  all_goals exact .inr (by simpa [floats] using h)

lemma exists_literal_of_next {c : Char} {cs rest : List Char} (h : Token.next c cs = (t, rest))
    (hx : x ∈ t.floats) : ∃ l : Literal, l.ReadsAs x := by
  cases t with
  | number n =>
    obtain ⟨l, hl, rfl⟩ := next_formed h
    cases hv : l.value? with
    | none => simp [Token.floats, hv] at hx
    | some n =>
      cases n with
      | float y =>
        obtain rfl : x = y := by simpa [Token.floats, Number.floats, hv] using hx
        exact ⟨l, hl, hv⟩
      | _ => simp [Token.floats, Number.floats, hv] at hx
  | _ => simp [Token.floats] at hx

lemma exists_literal_of_parse {cs : List Char} (h : x ∈ (parse place fs cs).1.floats) :
    (∃ l : Literal, l.ReadsAs x) ∨ x ∈ fs.flatMap Frame.floats := by
  have hmalformed : x ∉ Token.malformed.floats := by simp [Token.floats]
  -- what a step leaves comes from the token or was there before it
  fun_induction parse place fs cs with
  | case1 place fs d hd =>
    have hx : x ∈ (Step.stop d).floats := h
    exact .inr ((mem_floats_advance (hd ▸ hx)).resolve_left hmalformed)
  | case2 place fs place' fs' hgo =>
    have hx : x ∈ (Step.go place' fs').floats := mem_floats_breakInside h
    exact .inr ((mem_floats_advance (hgo ▸ hx)).resolve_left hmalformed)
  | case3 place fs c cs hspace ih => exact ih h
  | case4 place fs c cs hspace t rest hnext place' fs' hgo ih =>
    refine (ih h).elim .inl fun hx => ?_
    have hx : x ∈ (Step.go place' fs').floats := hx
    exact (mem_floats_advance (hgo ▸ hx)).imp (exists_literal_of_next hnext) id
  | case5 place fs c cs hspace t rest hnext d hd =>
    have hx : x ∈ (Step.stop d).floats := h
    exact (mem_floats_advance (hd ▸ hx)).imp (exists_literal_of_next hnext) id

lemma exists_literal_of_ofChars {cs : List Char} {d : Document} {alone : Bool}
    (h : ofChars cs = (d, alone)) (hx : x ∈ d.floats) : ∃ l : Literal, l.ReadsAs x := by
  obtain ⟨rfl, -⟩ := Prod.mk.inj h
  exact (exists_literal_of_parse hx).resolve_right List.not_mem_nil

end Frames

/-- The documents right inside of one. -/
def parts : Document → List Document
  | .array items _ => items
  | .object members _ => members.map (·.2)
  | _ => []

lemma floats_of_mem_parts {part d : Document} (h : part ∈ d.parts) : part.floats ⊆ d.floats := by
  intro x hx
  cases d with
  | array ds ending => exact mem_itemFloats.mpr ⟨part, h, hx⟩
  | object ms ending =>
    obtain ⟨m, hm, rfl⟩ := List.mem_map.mp h
    exact mem_memberFloats.mpr ⟨m, hm, hx⟩
  | _ => cases h

end Document

end JobDispatch.Json
