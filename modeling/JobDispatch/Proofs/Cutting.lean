import JobDispatch.Proofs.EventStream
import Mathlib

/-! Cuts of a text at its ends, at a character, at a word and into lines. Each is told by the parts
of the text that it leaves. -/

namespace JobDispatch.Text

variable {cs t : List Char}

section Ends

variable {p : Char → Bool}

lemma dropEnd_eq_iff :
    dropEnd p cs = t ↔
      ∃ tail, cs = t ++ tail ∧ (∀ c ∈ tail, p c = true) ∧ ∀ c ∈ t.getLast?, p c = false := by
  have hd : dropEnd p cs = cs.rdropWhile p := rfl
  rw [hd]
  constructor
  · rintro rfl
    refine ⟨cs.rtakeWhile p, List.rdropWhile_append_rtakeWhile.symm,
      fun c hc => List.mem_rtakeWhile_imp hc, fun c hc => ?_⟩
    obtain ⟨hne, rfl⟩ := List.mem_getLast?_eq_getLast hc
    simpa using List.rdropWhile_last_not p cs hne
  · rintro ⟨tail, rfl, htail, ht⟩
    induction tail using List.reverseRecOn with
    | nil =>
      rw [List.append_nil, List.rdropWhile_eq_self_iff]
      intro hne
      simp [ht _ (List.getLast_mem_getLast? hne)]
    | append_singleton tail c ih =>
      have hc : p c = true := htail c (by simp)
      rw [← List.append_assoc, List.rdropWhile_concat_pos _ _ _ hc]
      exact ih rfl fun d hd => htail d (List.mem_append_left _ hd)

def Trims (cs t : List Char) : Prop :=
  ∃ lead trail, cs = lead ++ t ++ trail ∧ (∀ c ∈ lead, isBlank c = true) ∧
    (∀ c ∈ trail, isBlank c = true) ∧ (∀ c ∈ t.head?, isBlank c = false) ∧
    ∀ c ∈ t.getLast?, isBlank c = false

lemma trim_eq_iff : trim cs = t ↔ Trims cs t := by
  constructor
  · intro h
    obtain ⟨trail, hrest, htrail, hlast⟩ := dropEnd_eq_iff.mp h
    refine ⟨cs.takeWhile isBlank, trail, ?_, fun c hc => List.mem_takeWhile_imp hc, htrail, ?_,
      hlast⟩
    · rw [List.append_assoc, ← hrest, List.takeWhile_append_dropWhile]
    · intro c hc
      have hhead : (cs.dropWhile isBlank).head? = some c := by
        rw [hrest]
        exact List.mem_head?_append_of_mem_head? hc
      have hdrop := List.head?_dropWhile_not isBlank cs
      rwa [hhead] at hdrop
  · rintro ⟨lead, trail, rfl, hlead, htrail, hhead, hlast⟩
    rw [trim, List.append_assoc, List.dropWhile_append_of_pos hlead]
    cases t with
    | nil =>
      rw [List.nil_append, List.dropWhile_eq_nil_iff.mpr htrail]
      rfl
    | cons c t =>
      have hc : ¬ isBlank c = true := by simp [hhead c rfl]
      rw [List.cons_append, List.dropWhile_cons_of_neg hc]
      exact dropEnd_eq_iff.mpr ⟨trail, rfl, htrail, hlast⟩

lemma dropSuffix_eq_iff {word : List Char} :
    dropSuffix word cs = t ↔ cs = t ++ word ∨ ¬ word <:+ cs ∧ t = cs := by
  rw [dropSuffix]
  by_cases h : word <:+ cs
  · rw [if_pos (List.isSuffixOf_iff_suffix.mpr h)]
    obtain ⟨u, rfl⟩ := h
    simp [eq_comm]
  · rw [if_neg (mt List.isSuffixOf_iff_suffix.mp h)]
    have hn : cs ≠ t ++ word := by
      rintro rfl
      exact h (List.suffix_append ..)
    simp [h, hn, eq_comm]

end Ends

section Places

lemma splitOnce_eq_none_iff {sep : Char} : splitOnce sep cs = none ↔ sep ∉ cs := by
  induction cs with
  | nil => simp [splitOnce]
  | cons c cs ih =>
    by_cases hc : c = sep
    · simp [splitOnce, hc]
    · simp [splitOnce, hc, Ne.symm hc, ih]

lemma splitOnce_append {sep : Char} {before : List Char} (h : sep ∉ before) (after : List Char) :
    splitOnce sep (before ++ sep :: after) = some (before, after) := by
  induction before with
  | nil => simp [splitOnce]
  | cons c before ih =>
    rw [List.mem_cons, not_or] at h
    simp [splitOnce, Ne.symm h.1, ih h.2]

lemma splitOnce_eq_some_iff {sep : Char} {before after : List Char} :
    splitOnce sep cs = some (before, after) ↔ cs = before ++ sep :: after ∧ sep ∉ before := by
  constructor
  · intro h
    have hm : sep ∈ cs := by
      by_contra hn
      simp [splitOnce_eq_none_iff.mpr hn] at h
    obtain ⟨before', after', rfl, hn⟩ := List.eq_append_cons_of_mem hm
    rw [splitOnce_append hn] at h
    cases h
    exact ⟨rfl, hn⟩
  · rintro ⟨rfl, h⟩
    exact splitOnce_append h after

structure First (word cs before after : List Char) : Prop where
  eq : cs = before ++ word ++ after
  first : ∀ ⦃before' after'⦄, cs = before' ++ word ++ after' → before.length ≤ before'.length

lemma first_append_iff {word rest before after : List Char} :
    First word (word ++ rest) before after ↔ before = [] ∧ after = rest := by
  constructor
  · rintro ⟨heq, hfirst⟩
    have hb : before = [] := by simpa using @hfirst [] rest rfl
    subst hb
    exact ⟨rfl, (List.append_cancel_left heq).symm⟩
  · rintro ⟨rfl, rfl⟩
    exact ⟨rfl, fun _ _ _ => Nat.zero_le _⟩

lemma first_cons_iff {word before after : List Char} {c : Char} (h : ¬ word <+: c :: cs) :
    First word (c :: cs) before after ↔ ∃ rest, before = c :: rest ∧ First word cs rest after := by
  have hcons {before after : List Char} (heq : c :: cs = before ++ word ++ after) :
      ∃ rest, before = c :: rest ∧ cs = rest ++ word ++ after := by
    cases before with
    | nil => exact absurd ⟨after, heq.symm⟩ h
    | cons d rest =>
      obtain ⟨rfl, hrest⟩ := List.cons_eq_cons.mp heq
      exact ⟨rest, rfl, hrest⟩
  constructor
  · rintro ⟨heq, hfirst⟩
    obtain ⟨rest, rfl, hrest⟩ := hcons heq
    refine ⟨rest, rfl, hrest, fun before' after' heq' => ?_⟩
    have hle := @hfirst (c :: before') after' (congrArg (c :: ·) heq')
    simpa using hle
  · rintro ⟨rest, rfl, heq, hfirst⟩
    refine ⟨congrArg (c :: ·) heq, fun before' after' heq' => ?_⟩
    obtain ⟨rest', rfl, hrest'⟩ := hcons heq'
    simpa using hfirst hrest'

lemma first_of_not_mem (word : List Char) {before : List Char} {c : Char} (h : c ∉ before)
    (after : List Char) :
    First (c :: word) (before ++ (c :: word) ++ after) before after := by
  induction before with
  | nil => exact first_append_iff.mpr ⟨rfl, rfl⟩
  | cons d before ih =>
    rw [List.mem_cons, not_or] at h
    have hn : ¬ c :: word <+: d :: (before ++ (c :: word) ++ after) := by
      rw [List.cons_prefix_cons]
      exact fun hw => h.1 hw.1
    exact (first_cons_iff hn).mpr ⟨before, rfl, ih h.2⟩

lemma First.unique {word before after before' after' : List Char} (h : First word cs before after)
    (h' : First word cs before' after') : before = before' ∧ after = after' := by
  have hlen : before.length = before'.length := Nat.le_antisymm (h.first h'.eq) (h'.first h.eq)
  have heq := h.eq.symm.trans h'.eq
  rw [List.append_assoc, List.append_assoc] at heq
  obtain ⟨rfl, hrest⟩ := List.append_inj heq hlen
  exact ⟨rfl, List.append_cancel_left hrest⟩

lemma First.suffix {word before after before' after' : List Char} (h : First word cs before after)
    (heq : cs = before' ++ word ++ after') : after' <:+ after := by
  have hle := h.first heq
  have hlen := congrArg List.length (h.eq.symm.trans heq)
  simp only [List.length_append] at hlen
  exact List.suffix_of_suffix_length_le ⟨_, heq.symm⟩ ⟨_, h.eq.symm⟩ (by omega)

lemma First.of_append {word before after tail : List Char} {c : Char}
    (h : First (word ++ [c]) (cs ++ tail) before after) (hc : c ∉ tail) :
    ∃ rest, First (word ++ [c]) cs before rest := by
  have hrest : ∃ rest, cs = before ++ (word ++ [c]) ++ rest := by
    rcases List.append_eq_append_iff.mp h.eq with ⟨shared, hshared, htail⟩ | ⟨rest, hrest, -⟩
    · rcases List.eq_nil_or_concat shared with rfl | ⟨start, d, rfl⟩
      · exact ⟨[], by simpa using hshared.symm⟩
      · have hd : c = d := by
          have hlast := congrArg List.getLast? hshared
          simpa using hlast
        rw [htail, hd] at hc
        simp at hc
    · exact ⟨rest, hrest⟩
  obtain ⟨rest, heq⟩ := hrest
  refine ⟨rest, heq, fun before' after' heq' => ?_⟩
  exact @First.first _ _ _ _ h before' (after' ++ tail) (by rw [heq', List.append_assoc])

lemma suffix_of_suffix_append_cons {word xs ys : List Char} {c : Char} (hc : c ∉ word)
    (h : word <:+ xs ++ c :: ys) : word <:+ ys := by
  rcases List.suffix_or_suffix_of_suffix h (List.suffix_append xs (c :: ys)) with hw | hw
  · rcases List.suffix_cons_iff.mp hw with rfl | hw
    · exact absurd List.mem_cons_self hc
    · exact hw
  · exact absurd (hw.subset List.mem_cons_self) hc

lemma not_infix_append (word : List Char) {xs ys : List Char} {c : Char} (hc : c ∉ xs) :
    ¬ c :: word <:+: ys → ¬ c :: word <:+: xs ++ ys := by
  intro h
  induction xs with
  | nil => exact h
  | cons x xs ih =>
    rw [List.mem_cons, not_or] at hc
    rw [List.cons_append, List.infix_cons_iff, List.cons_prefix_cons]
    rintro (hp | hi)
    · exact hc.1 hp.1
    · exact ih hc.2 hi

lemma after?_eq_some_iff {word after : List Char} :
    after? word cs = some after ↔ ∃ before, First word cs before after := by
  induction cs with
  | nil =>
    by_cases hw : word = []
    · subst hw
      simp only [after?, if_true, Option.some.injEq]
      constructor
      · rintro rfl
        exact ⟨[], first_append_iff.mpr ⟨rfl, rfl⟩⟩
      · rintro ⟨before, hf⟩
        exact (first_append_iff.mp hf).2.symm
    · simp only [after?, hw, if_false, reduceCtorEq, false_iff]
      rintro ⟨before, heq, -⟩
      simp [hw] at heq
  | cons c cs ih =>
    by_cases hw : word <+: c :: cs
    · obtain ⟨rest, hrest⟩ := hw
      simp only [after?, List.isPrefixOf_iff_prefix, ← hrest, List.prefix_append, if_true,
        List.drop_left, Option.some.injEq, first_append_iff, exists_and_right, exists_eq, true_and]
      exact eq_comm
    · simp only [after?, List.isPrefixOf_iff_prefix, hw, if_false, ih, first_cons_iff hw]
      grind

lemma after?_eq_none_iff {word : List Char} : after? word cs = none ↔ ¬ word <:+: cs := by
  induction cs with
  | nil => simp [after?]
  | cons c cs ih =>
    by_cases hw : word <+: c :: cs
    · simp [after?, List.isPrefixOf_iff_prefix, hw, hw.isInfix]
    · simp [after?, List.isPrefixOf_iff_prefix, hw, ih, List.infix_cons_iff]

end Places

lemma pieces_eq_splitOn {α : Type} [DecidableEq α] (sep : α) (xs : List α) :
    pieces sep xs = xs.splitOn sep := by
  induction xs with
  | nil => rfl
  | cons x xs ih =>
    obtain ⟨p, ps, hp⟩ := List.exists_cons_of_ne_nil (pieces_ne_nil sep xs)
    rw [List.splitOn, List.splitOnP_cons_eq_if_modifyHead, ← List.splitOn, ← ih, pieces_cons, hp]
    by_cases hx : x = sep <;> simp [consPiece, hx]

section Lines

variable {α : Type} [DecidableEq α] {lf cr : α}

inductive Lines (lf cr : α) : List α → List (List α) → Prop
  | empty : Lines lf cr [] []
  | opened {line : List α} : lf ∉ line → line ≠ [] → Lines lf cr line [line]
  | closed {line rest : List α} {ls : List (List α)} : lf ∉ line → line.getLast? ≠ some cr →
      Lines lf cr rest ls → Lines lf cr (line ++ lf :: rest) (line :: ls)
  | returned {line rest : List α} {ls : List (List α)} : lf ∉ line →
      Lines lf cr rest ls → Lines lf cr (line ++ cr :: lf :: rest) (line :: ls)

lemma lines_of_not_mem {xs : List α} (h : lf ∉ xs) (hne : xs ≠ []) : lines lf cr xs = [xs] := by
  cases xs with
  | nil => exact absurd rfl hne
  | cons x xs => simp [lines, pieces_of_not_mem h]

lemma dropCarriage_of_getLast? {line : List α} (h : line.getLast? ≠ some cr) :
    dropCarriage cr line = line :=
  if_neg h

lemma dropCarriage_append (line : List α) : dropCarriage cr (line ++ [cr]) = line := by
  simp [dropCarriage]

lemma Lines.lines_eq {xs : List α} {ls : List (List α)} (hcr : cr ≠ lf) (h : Lines lf cr xs ls) :
    lines lf cr xs = ls := by
  induction h with
  | empty => rfl
  | opened hn hne => exact lines_of_not_mem hn hne
  | closed hn hlast _ ih => rw [lines_cons_of_not_mem hn, dropCarriage_of_getLast? hlast, ih]
  | @returned line rest ls hn _ ih =>
    have hn' : lf ∉ line ++ [cr] := by simp [hn, Ne.symm hcr]
    rw [List.append_cons, lines_cons_of_not_mem hn', dropCarriage_append, ih]

lemma lines_lines (xs : List α) : Lines lf cr xs (lines lf cr xs) := by
  -- By the length of the text, since what follows its first line is shorter.
  induction hlen : xs.length using Nat.strong_induction_on generalizing xs with
  | _ n ih =>
    by_cases hm : lf ∈ xs
    · obtain ⟨line, rest, rfl, hn⟩ := List.eq_append_cons_of_mem hm
      have hrest := ih rest.length (by simp [← hlen]; omega) rest rfl
      rw [lines_cons_of_not_mem hn]
      by_cases hlast : line.getLast? = some cr
      · obtain ⟨front, rfl⟩ := List.getLast?_eq_some_iff.mp hlast
        rw [dropCarriage_append, ← List.append_cons]
        exact .returned (fun h => hn (List.mem_append_left _ h)) hrest
      · rw [dropCarriage_of_getLast? hlast]
        exact .closed hn hlast hrest
    · rcases eq_or_ne xs [] with rfl | hne
      · exact .empty
      · rw [lines_of_not_mem hm hne]
        exact .opened hm hne

lemma lines_iff {xs : List α} {ls : List (List α)} (hcr : cr ≠ lf) :
    Lines lf cr xs ls ↔ ls = lines lf cr xs := by
  constructor
  · exact fun h => (h.lines_eq hcr).symm
  · rintro rfl
    exact lines_lines xs

end Lines

end JobDispatch.Text
