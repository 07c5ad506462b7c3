import JobDispatch.EventStream
import Mathlib.Tactic

namespace JobDispatch

namespace Text

section Lines

variable {α : Type} [DecidableEq α]

lemma pieces_append_cons (sep : α) (xs ys : List α) :
    pieces sep (xs ++ sep :: ys) = pieces sep xs ++ pieces sep ys := by
  induction xs with
  | nil =>
    obtain ⟨p, ps, hp⟩ := List.exists_cons_of_ne_nil (pieces_ne_nil sep ys)
    simp [hp, consPiece]
  | cons x xs ih =>
    obtain ⟨p, ps, hp⟩ := List.exists_cons_of_ne_nil (pieces_ne_nil sep xs)
    rw [List.cons_append, pieces_cons, pieces_cons, ih, hp]
    by_cases hx : x = sep <;> simp [consPiece, hx]

lemma pieces_of_not_mem {sep : α} {xs : List α} (h : sep ∉ xs) : pieces sep xs = [xs] := by
  induction xs with
  | nil => rfl
  | cons x xs ih =>
    rw [List.mem_cons, not_or] at h
    rw [pieces_cons, ih h.2, consPiece, if_neg (Ne.symm h.1)]

lemma lines_append_cons (lf cr : α) (xs ys : List α) :
    lines lf cr (xs ++ lf :: ys) = (pieces lf xs).map (dropCarriage cr) ++ lines lf cr ys := by
  have hn := pieces_ne_nil lf ys
  simp only [lines, pieces_append_cons, List.dropLast_append_of_ne_nil hn, List.map_append,
    List.getLast?_append_of_ne_nil _ hn]
  split <;> simp

lemma lines_cons_of_not_mem {lf cr : α} {line : List α} (h : lf ∉ line) (ys : List α) :
    lines lf cr (line ++ lf :: ys) = dropCarriage cr line :: lines lf cr ys := by
  rw [lines_append_cons, pieces_of_not_mem h]
  rfl

lemma lines_append {lf cr : α} {xs : List α} (h : xs = [] ∨ xs.getLast? = some lf) (ys : List α) :
    lines lf cr (xs ++ ys) = lines lf cr xs ++ lines lf cr ys := by
  rcases h with rfl | h
  · rfl
  · obtain ⟨zs, rfl⟩ := List.getLast?_eq_some_iff.mp h
    rw [List.append_assoc, List.singleton_append, lines_append_cons, lines_append_cons,
      List.append_assoc]
    rfl

end Lines

lemma trim_append_blank (cs : List Char) {c : Char} (hc : isBlank c = true) :
    trim (cs ++ [c]) = trim cs := by
  rw [trim, trim, List.dropWhile_append]
  by_cases hn : (cs.dropWhile isBlank).isEmpty = true
  · rw [if_pos hn, List.isEmpty_iff.mp hn, List.dropWhile_cons_of_pos hc]
    rfl
  · rw [if_neg hn, dropEnd, dropEnd, List.reverse_append, List.reverse_singleton,
      List.singleton_append, List.dropWhile_cons_of_pos hc]

end Text

lemma decodeUtf8_eq_ok_iff {bytes : List UInt8} {text : String} :
    decodeUtf8 bytes = .ok text ↔ text.toByteArray = bytes.toByteArray := by
  rw [decodeUtf8, String.fromUTF8?]
  have hb : bytes.toByteArray = ⟨bytes.toArray⟩ := by
    ext1
    simp
  rw [hb]
  split_ifs with hv
  · simp only [Except.ok.injEq]
    constructor
    · rintro rfl
      rfl
    · intro h
      rw [← String.toByteArray_inj, h]
      rfl
  · simp only [false_iff]
    intro h
    exact hv (h ▸ text.isValidUTF8)

lemma exists_append_carriage {bytes : List UInt8} {text : String}
    (h : text.toByteArray = bytes.toByteArray ++ [13].toByteArray) :
    ∃ start : String, start.toByteArray = bytes.toByteArray ∧ text = start ++ "\r" := by
  have hsize : text.toByteArray.size = bytes.length + 1 := by simp [h]
  let p : String.Pos.Raw := ⟨bytes.length⟩
  have hp : p < text.rawEndPos := by
    simp [String.Pos.Raw.lt_iff, p, ← String.size_toByteArray, hsize]
  have hbyte : text.getUTF8Byte p hp = 13 := by
    simp only [String.getUTF8Byte, h]
    rw [ByteArray.getElem_append_right (by simp [p])]
    simp [p]
  -- A byte below 128 begins a character, so that the text can be cut before it.
  have hvalid : p.IsValid text :=
    String.Pos.Raw.isValid_iff_isUTF8FirstByte.mpr (.inr ⟨hp, by rw [hbyte]; decide⟩)
  obtain ⟨start, rest, rfl, hstart⟩ := String.Pos.Raw.isValid_iff_exists_append.mp hvalid
  have hlen : start.toByteArray.size = bytes.toByteArray.size := by
    simpa [p] using (congrArg String.Pos.Raw.byteIdx hstart).symm
  rw [String.toByteArray_append] at h
  have hs := ByteArray.append_inj_left h hlen
  refine ⟨start, hs, ?_⟩
  rw [← String.toByteArray_inj, String.toByteArray_append, h, String.toByteArray_append, hs]
  rfl

lemma decodeUtf8_append_carriage {bytes : List UInt8} {text : String} :
    decodeUtf8 (bytes ++ [13]) = .ok text ↔
      ∃ start, decodeUtf8 bytes = .ok start ∧ text = start ++ "\r" := by
  simp only [decodeUtf8_eq_ok_iff, List.toByteArray_append]
  constructor
  · exact exists_append_carriage
  · rintro ⟨start, hs, rfl⟩
    rw [String.toByteArray_append, hs]
    rfl

namespace EventStream

lemma Line.ofBytes_append_carriage (line : List UInt8) :
    Line.ofBytes (line ++ [13]) = Line.ofBytes line := by
  rw [ofBytes, ofBytes]
  cases hs : decodeUtf8 line with
  | error e =>
    cases ht : decodeUtf8 (line ++ [13]) with
    | error e' => rfl
    | ok text =>
      obtain ⟨start, hstart, -⟩ := decodeUtf8_append_carriage.mp ht
      simp [hs] at hstart
  | ok start =>
    have hblank : Text.trimmed (start ++ "\r") = Text.trimmed start := by
      rw [Text.trimmed, String.toList_append]
      exact congrArg String.ofList (Text.trim_append_blank start.toList rfl)
    rw [decodeUtf8_append_carriage.mpr ⟨start, hs, rfl⟩]
    simp only [hblank]

lemma Line.ofBytes_dropCarriage (line : List UInt8) :
    Line.ofBytes (Text.dropCarriage 13 line) = Line.ofBytes line := by
  rw [Text.dropCarriage]
  split_ifs with h
  · obtain ⟨start, rfl⟩ := List.getLast?_eq_some_iff.mp h
    rw [List.dropLast_concat, ofBytes_append_carriage]
  · rfl

def Line.brings? : Line → Option (Except StreamError Inbound)
  | .event i => some (.ok i)
  | .notUtf8 => some (.error .notUtf8)
  | .blank | .malformed => none

def Delivery.brings? : Delivery → Option (Except StreamError Inbound)
  | .event i => some (.ok i)
  | .failure e => some (.error e)
  | .malformed _ => none

lemma Line.brings?_eq_ok {l : Line} {i : Inbound} (h : l.brings? = some (.ok i)) :
    l = .event i := by
  cases l with
  | event j => rw [Except.ok.inj (Option.some.inj h)]
  | notUtf8 => cases h
  | blank | malformed => cases h

def brought (bytes : List UInt8) : List (Except StreamError Inbound) :=
  (linesOf bytes).filterMap fun line => (Line.ofBytes line).brings?

lemma exists_deliveriesFrom_cons (line : List UInt8) (read : UInt64) :
    ∃ ds read', (∀ rest, deliveriesFrom read (line :: rest) = ds ++ deliveriesFrom read' rest) ∧
      ds.filterMap Delivery.brings? = (Line.ofBytes line).brings?.toList := by
  cases hl : Line.ofBytes line with
  | blank => exact ⟨[], read + 1, fun rest => by simp [deliveriesFrom, hl], rfl⟩
  | event i => exact ⟨[.event i], read + 1, fun rest => by simp [deliveriesFrom, hl], rfl⟩
  | malformed =>
    exact ⟨[.malformed (read + 1)], read + 1, fun rest => by simp [deliveriesFrom, hl], rfl⟩
  | notUtf8 => exact ⟨[.failure .notUtf8], read, fun rest => by simp [deliveriesFrom, hl], rfl⟩

lemma filterMap_brings_deliveriesFrom (read : UInt64) (lines : List (List UInt8)) :
    (deliveriesFrom read lines).filterMap Delivery.brings? =
      lines.filterMap fun line => (Line.ofBytes line).brings? := by
  induction lines generalizing read with
  | nil => rfl
  | cons line rest ih =>
    obtain ⟨ds, read', h, hds⟩ := exists_deliveriesFrom_cons line read
    rw [h, List.filterMap_append, hds, ih, List.filterMap_cons]
    cases (Line.ofBytes line).brings? <;> rfl

-- What follows lines depends on them by the number of lines read, and by nothing else.
lemma exists_deliveriesFrom_append (lines : List (List UInt8)) (read : UInt64) :
    ∃ read', ∀ rest, deliveriesFrom read (lines ++ rest) =
      deliveriesFrom read lines ++ deliveriesFrom read' rest := by
  induction lines generalizing read with
  | nil => exact ⟨read, fun _ => rfl⟩
  | cons line lines ih =>
    obtain ⟨ds, mid, h, -⟩ := exists_deliveriesFrom_cons line read
    obtain ⟨read', ih⟩ := ih mid
    exact ⟨read', fun rest => by rw [List.cons_append, h, h, ih, List.append_assoc]⟩

lemma linesOf_splice {before bad : List UInt8} (hs : before = [] ∨ before.getLast? = some 10)
    (hb : 10 ∉ bad) (after : List UInt8) :
    linesOf (before ++ bad ++ 10 :: after) =
      linesOf before ++ Text.dropCarriage 13 bad :: linesOf after := by
  rw [linesOf, List.append_assoc, Text.lines_append hs, Text.lines_cons_of_not_mem hb]
  rfl

inductive Source.Yields : Source → List (Except StreamError Inbound) → Prop
  | ended {s : Source} : s.next.result = .ok none → Yields s []
  | event {s : Source} {i : Inbound} {xs : List (Except StreamError Inbound)} :
      s.next.result = .ok (some i) → Yields s.next.source xs → Yields s (.ok i :: xs)
  | failure {s : Source} {e : StreamError} {xs : List (Except StreamError Inbound)} :
      s.next.result = .error e → Yields s.next.source xs → Yields s (.error e :: xs)

lemma Source.Yields.det {s : Source} {xs ys : List (Except StreamError Inbound)}
    (hx : s.Yields xs) (hy : s.Yields ys) : xs = ys := by
  induction hx generalizing ys with
  | ended h => cases hy <;> simp_all
  | event h _ ih =>
    cases hy with
    | ended h' => simp [h] at h'
    | event h' hy =>
      obtain rfl : _ = _ := by simpa [h] using h'
      rw [ih hy]
    | failure h' => simp [h] at h'
  | failure h _ ih =>
    cases hy with
    | ended h' => simp [h] at h'
    | event h' => simp [h] at h'
    | failure h' hy =>
      obtain rfl : _ = _ := by simpa [h] using h'
      rw [ih hy]

lemma Source.Yields.of_next {s s' : Source} {xs : List (Except StreamError Inbound)}
    (hr : s'.next.result = s.next.result) (hs : s'.next.source = s.next.source) (h : s.Yields xs) :
    s'.Yields xs := by
  cases h with
  | ended h => exact .ended (hr.trans h)
  | event h hrest => exact .event (hr.trans h) (hs ▸ hrest)
  | failure h hrest => exact .failure (hr.trans h) (hs ▸ hrest)

lemma yields_lines (lines : List (List UInt8)) (read : UInt64) :
    Source.Yields ⟨lines, read⟩ (lines.filterMap fun line => (Line.ofBytes line).brings?) := by
  induction lines generalizing read with
  | nil => exact .ended rfl
  | cons line rest ih =>
    cases hl : Line.ofBytes line with
    | blank =>
      rw [List.filterMap_cons_none (by simp [hl, Line.brings?])]
      exact (ih (read + 1)).of_next (by simp [Source.next, nextFrom, hl])
        (by simp [Source.next, nextFrom, hl])
    | event i =>
      rw [List.filterMap_cons_some (b := .ok i) (by simp [hl, Line.brings?])]
      have hn : Source.next ⟨line :: rest, read⟩ = ⟨.ok (some i), ⟨rest, read + 1⟩, []⟩ := by
        simp [Source.next, nextFrom, hl]
      exact .event (by rw [hn]) (by rw [hn]; exact ih _)
    | malformed =>
      rw [List.filterMap_cons_none (by simp [hl, Line.brings?])]
      exact (ih (read + 1)).of_next (by simp [Source.next, nextFrom, hl])
        (by simp [Source.next, nextFrom, hl])
    | notUtf8 =>
      rw [List.filterMap_cons_some (b := .error .notUtf8) (by simp [hl, Line.brings?])]
      have hn : Source.next ⟨line :: rest, read⟩ = ⟨.error .notUtf8, ⟨rest, read⟩, []⟩ := by
        simp [Source.next, nextFrom, hl]
      exact .failure (by rw [hn]) (by rw [hn]; exact ih _)

lemma yields_iff {bytes : List UInt8} {xs : List (Except StreamError Inbound)} :
    (Source.ofBytes bytes).Yields xs ↔ xs = brought bytes := by
  constructor
  · intro h
    exact h.det (yields_lines _ _)
  · rintro rfl
    exact yields_lines _ _

end EventStream

end JobDispatch
