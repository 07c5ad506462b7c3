import JobDispatch.Proofs.Cutting
import JobDispatch.Proofs.Topic
import Mathlib

namespace JobDispatch

namespace Text

def encode (cs : List Char) : List UInt8 :=
  cs.flatMap String.utf8EncodeChar

@[simp] lemma encode_nil : encode [] = [] := rfl

@[simp] lemma encode_append (cs ds : List Char) : encode (cs ++ ds) = encode cs ++ encode ds :=
  List.flatMap_append

@[simp] lemma encode_cons (c : Char) (cs : List Char) :
    encode (c :: cs) = String.utf8EncodeChar c ++ encode cs :=
  List.flatMap_cons

-- A byte below 128 stands for a character of its own, and for no part of another.
lemma mem_utf8EncodeChar_iff {b : UInt8} {c : Char} (hb : b.toNat < 128) :
    b ∈ String.utf8EncodeChar c ↔ c.toNat = b.toNat := by
  have hc : c.val.toNat = c.toNat := rfl
  simp only [String.utf8EncodeChar, hc]
  split_ifs <;> simp only [List.mem_cons, List.not_mem_nil, or_false, ← UInt8.toNat_inj,
    UInt8.toNat_ofNat'] <;> omega

lemma mem_encode_iff {b : UInt8} {c : Char} {cs : List Char} (hb : b.toNat < 128)
    (hc : c.toNat = b.toNat) : b ∈ encode cs ↔ c ∈ cs := by
  rw [encode, List.mem_flatMap]
  constructor
  · rintro ⟨d, hd, hbd⟩
    have hdc : d.toNat = c.toNat := ((mem_utf8EncodeChar_iff hb).mp hbd).trans hc.symm
    exact Char.toNat_inj.mp hdc ▸ hd
  · exact fun h => ⟨c, h, (mem_utf8EncodeChar_iff hb).mpr hc⟩

lemma getLast?_encode {cs : List Char} (h : cs.getLast? ≠ some '\r') :
    (encode cs).getLast? ≠ some 13 := by
  rcases List.eq_nil_or_concat cs with rfl | ⟨front, c, rfl⟩
  · simp
  · have hne : String.utf8EncodeChar c ≠ [] := String.utf8EncodeChar_ne_nil
    rw [List.concat_eq_append] at h ⊢
    rw [encode_append, encode_cons, encode_nil, List.append_nil,
      List.getLast?_append_of_ne_nil _ hne]
    intro hlast
    have hc := (mem_utf8EncodeChar_iff (by decide)).mp (List.mem_of_getLast? hlast)
    have hcr : c = '\r' := Char.toNat_inj.mp hc
    exact h (by rw [hcr]; exact List.getLast?_concat)

lemma Lines.encode {cs : List Char} {ls : List (List Char)} (h : Lines '\n' '\r' cs ls) :
    Lines 10 13 (encode cs) (ls.map encode) := by
  have hn {line : List Char} (hn : '\n' ∉ line) : 10 ∉ Text.encode line :=
    mt (mem_encode_iff (by decide) rfl).mp hn
  induction h with
  | empty => exact .empty
  | opened h hne =>
    obtain ⟨c, cs, rfl⟩ := List.exists_cons_of_ne_nil hne
    exact .opened (hn h) (List.append_ne_nil_of_left_ne_nil String.utf8EncodeChar_ne_nil _)
  | closed h hlast _ ih =>
    rw [encode_append, encode_cons]
    exact .closed (hn h) (getLast?_encode hlast) ih
  | returned h _ ih =>
    rw [encode_append, encode_cons, encode_cons]
    exact .returned (hn h) ih

end Text

lemma decodeUtf8_eq_ok_iff_encode {bytes : List UInt8} {text : String} :
    decodeUtf8 bytes = .ok text ↔ bytes = Text.encode text.toList := by
  have htext : text.toByteArray = (Text.encode text.toList).toByteArray :=
    (congrArg String.toByteArray text.ofList_toList).symm
  rw [decodeUtf8_eq_ok_iff, htext, List.toByteArray_inj]
  exact eq_comm

namespace EventStream

open Text

lemma Line.ofBytes_encode {line t : List Char} (h : Trims line t) :
    Line.ofBytes (encode line) = if t = [] then .blank else
      (Json.parse? (String.ofList t)).elim .malformed
        fun v => .event ⟨⟨v⟩, Event.text? ⟨v⟩ ["topic"]⟩ := by
  have hd : decodeUtf8 (encode line) = .ok (String.ofList line) := by
    rw [decodeUtf8_eq_ok_iff_encode, String.toList_ofList]
  rw [Line.ofBytes, hd, ← trim_eq_iff.mpr h]
  simp only [trimmed, String.toList_ofList, inbound?_eq]
  by_cases ht : trim line = []
  · rw [if_pos ht, ht]
    rfl
  · have hempty : (String.ofList (trim line)).isEmpty = false := by simpa using ht
    rw [if_neg ht, hempty]
    cases Json.parse? (String.ofList (trim line)) <;> rfl

inductive Heard
  | note (r : Log.Record)
  | event (i : Inbound)

inductive Source.Tells : Source → List Heard → Source → Prop
  | ended {s : Source} : s.next.result = .ok none →
      Tells s (s.next.log.map .note) s.next.source
  | event {s last : Source} {i : Inbound} {hs : List Heard} : s.next.result = .ok (some i) →
      Tells s.next.source hs last → Tells s (s.next.log.map .note ++ .event i :: hs) last

inductive Says : ℕ → List (List Char) → List Heard → Prop
  | nil {n : ℕ} : Says n [] []
  | blank {n : ℕ} {line : List Char} {rest : List (List Char)} {hs : List Heard} :
      Trims line [] → Says (n + 1) rest hs → Says n (line :: rest) hs
  | event {n : ℕ} {line t : List Char} {rest : List (List Char)} {hs : List Heard} {v : Json} :
      Trims line t → t ≠ [] → Json.parse? (String.ofList t) = some v → Says (n + 1) rest hs →
      Says n (line :: rest) (.event ⟨⟨v⟩, Event.text? ⟨v⟩ ["topic"]⟩ :: hs)
  | malformed {n : ℕ} {line t : List Char} {rest : List (List Char)} {hs : List Heard} :
      Trims line t → t ≠ [] → Json.parse? (String.ofList t) = none → Says (n + 1) rest hs →
      Says n (line :: rest)
        (.note ⟨.warn, .listener, "Skipping malformed event",
          [("line", toString (UInt64.ofNat n))], ["error"]⟩ :: hs)

lemma exists_spoken (n : ℕ) (ls : List (List Char)) : ∃ hs, Says n ls hs := by
  induction ls generalizing n with
  | nil => exact ⟨[], .nil⟩
  | cons line rest ih =>
    obtain ⟨hs, hrest⟩ := ih (n + 1)
    have ht := trim_eq_iff.mp (rfl : trim line = _)
    by_cases hne : trim line = []
    · exact ⟨hs, .blank (hne ▸ ht) hrest⟩
    · cases hv : Json.parse? (String.ofList (trim line)) with
      | some v => exact ⟨_, .event ht hne hv hrest⟩
      | none => exact ⟨_, .malformed ht hne hv hrest⟩

lemma Source.Tells.det {s last last' : Source} {hs hs' : List Heard} (h : s.Tells hs last)
    (h' : s.Tells hs' last') : hs = hs' ∧ last = last' := by
  induction h generalizing hs' with
  | ended hr =>
    cases h' with
    | ended => exact ⟨rfl, rfl⟩
    | event hr' => simp [hr] at hr'
  | event hr _ ih =>
    cases h' with
    | ended hr' => simp [hr] at hr'
    | event hr' hrest =>
      obtain rfl : _ = _ := by simpa [hr] using hr'
      obtain ⟨rfl, rfl⟩ := ih hrest
      exact ⟨rfl, rfl⟩

lemma Source.Tells.of_next {s s' last : Source} {hs : List Heard} (h : s.Tells hs last)
    (hn : s'.next = s.next) : s'.Tells hs last := by
  cases h with
  | ended hr =>
    rw [← hn] at hr ⊢
    exact .ended hr
  | event hr hrest =>
    rw [← hn] at hr hrest ⊢
    exact .event hr hrest

lemma Source.Tells.of_skipped {s s' last : Source} {hs : List Heard} {r : Log.Record}
    (h : s.Tells hs last) (hn : s'.next = { s.next with log := r :: s.next.log }) :
    s'.Tells (.note r :: hs) last := by
  cases h with
  | ended hr =>
    have htells := Tells.ended (s := s') (by rw [hn]; exact hr)
    rwa [hn] at htells
  | event hr hrest =>
    have htells := Tells.event (s := s') (by rw [hn]; exact hr) (by rw [hn]; exact hrest)
    rwa [hn] at htells

-- A source that has read `n` lines goes on to tell what the lines from `n + 1` say.
lemma Says.tells {n : ℕ} {ls : List (List Char)} {hs : List Heard} (h : Says (n + 1) ls hs) :
    Source.Tells ⟨ls.map encode, .ofNat n⟩ hs ⟨[], .ofNat (n + ls.length)⟩ := by
  generalize hm : n + 1 = m at h
  induction h generalizing n with
  | nil => exact .ended rfl
  | @blank _ line rest hs ht _ ih =>
    subst hm
    have hl := Line.ofBytes_encode ht
    have hn : Source.next ⟨encode line :: rest.map encode, .ofNat n⟩ =
        Source.next ⟨rest.map encode, .ofNat (n + 1)⟩ := by
      simp [Source.next, nextFrom, hl]
    have hrest := (ih rfl).of_next hn
    rwa [Nat.add_right_comm] at hrest
  | @event _ line t rest hs v ht hne hv _ ih =>
    subst hm
    have hl := Line.ofBytes_encode ht
    rw [if_neg hne, hv] at hl
    have hn : Source.next ⟨encode line :: rest.map encode, .ofNat n⟩ =
        ⟨.ok (some ⟨⟨v⟩, Event.text? ⟨v⟩ ["topic"]⟩), ⟨rest.map encode, .ofNat (n + 1)⟩, []⟩ := by
      simp [Source.next, nextFrom, hl]
    have hrest := ih rfl
    rw [Nat.add_right_comm] at hrest
    have htells := Source.Tells.event (s := ⟨encode line :: rest.map encode, .ofNat n⟩) (by rw [hn])
      (by rw [hn]; exact hrest)
    rwa [hn] at htells
  | @malformed _ line t rest hs ht hne hv _ ih =>
    subst hm
    have hl := Line.ofBytes_encode ht
    rw [if_neg hne, hv] at hl
    have hn : Source.next ⟨encode line :: rest.map encode, .ofNat n⟩ =
        { Source.next ⟨rest.map encode, .ofNat (n + 1)⟩ with
          log := skipped (.ofNat (n + 1)) ::
            (Source.next ⟨rest.map encode, .ofNat (n + 1)⟩).log } := by
      simp [Source.next, nextFrom, hl]
    have hrest := (ih rfl).of_skipped hn
    rwa [Nat.add_right_comm] at hrest

theorem Source.tells_text {bytes : List UInt8} {text : String} (h : decodeUtf8 bytes = .ok text) :
    ∃ ls hs last, (∀ ls', Lines '\n' '\r' text.toList ls' ↔ ls' = ls) ∧
      (∀ hs', Says 1 ls hs' ↔ hs' = hs) ∧
      (∀ hs' last', (Source.ofBytes bytes).Tells hs' last' ↔ hs' = hs ∧ last' = last) ∧
      last.next = ⟨.ok none, last, []⟩ := by
  generalize hls : lines '\n' '\r' text.toList = ls
  have hlines : Lines '\n' '\r' text.toList ls := (lines_iff (by decide)).mpr hls.symm
  obtain ⟨hs, hspoken⟩ := exists_spoken 1 ls
  have hbytes : linesOf bytes = ls.map encode := by
    rw [decodeUtf8_eq_ok_iff_encode.mp h]
    exact hlines.encode.lines_eq (by decide)
  have htells {hs : List Heard} (hspoken : Says 1 ls hs) :
      (Source.ofBytes bytes).Tells hs ⟨[], .ofNat (0 + ls.length)⟩ := by
    rw [Source.ofBytes, hbytes]
    exact hspoken.tells
  refine ⟨ls, hs, ⟨[], .ofNat (0 + ls.length)⟩, fun ls' => ?_, fun hs' => ?_,
    fun hs' last' => ?_, rfl⟩
  · rw [← hls]
    exact lines_iff (by decide)
  · constructor
    · exact fun h' => ((htells h').det (htells hspoken)).1
    · rintro rfl
      exact hspoken
  · constructor
    · exact fun h' => h'.det (htells hspoken)
    · rintro ⟨rfl, rfl⟩
      exact htells hspoken

theorem Source.tells_mixed :
    decodeUtf8 (encode "{}\n \nx\r\n{}".toList) = .ok "{}\n \nx\r\n{}" ∧
      ∃ last, (Source.ofBytes (encode "{}\n \nx\r\n{}".toList)).Tells
          [.event ⟨⟨.object []⟩, none⟩,
            .note ⟨.warn, .listener, "Skipping malformed event", [("line", "3")], ["error"]⟩,
            .event ⟨⟨.object []⟩, none⟩] last ∧
        last.next = ⟨.ok none, last, []⟩ := by
  have hdecode : decodeUtf8 (encode "{}\n \nx\r\n{}".toList) = .ok "{}\n \nx\r\n{}" :=
    decodeUtf8_eq_ok_iff_encode.mpr rfl
  obtain ⟨ls, hs, last, hlines, hspoken, htells, hlast⟩ := Source.tells_text hdecode
  have hls : ["{}".toList, [' '], ['x'], "{}".toList] = ls :=
    (hlines _).mp ((lines_iff (by decide)).mpr (by decide))
  have hempty : Json.parse? (String.ofList "{}".toList) = some (.object []) := by cbv
  have hx : Json.parse? (String.ofList ['x']) = none := by cbv
  have hobject : Trims "{}".toList "{}".toList := trim_eq_iff.mp (by decide)
  subst hls
  have hhs := (hspoken _).mp <| .event hobject (by decide) hempty <|
    .blank (trim_eq_iff.mp (by decide)) <|
    .malformed (trim_eq_iff.mp (by decide)) (by decide) hx <|
    .event hobject (by decide) hempty .nil
  exact ⟨hdecode, last, (htells _ _).mpr ⟨hhs, rfl⟩, hlast⟩

end EventStream

end JobDispatch
