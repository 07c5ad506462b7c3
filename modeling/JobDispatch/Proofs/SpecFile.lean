import JobDispatch.Offline.SpecFile
import JobDispatch.Proofs.Cutting
import Mathlib

namespace JobDispatch.SpecFile

open Text

def InAnyCase (word cs : List Char) : Prop :=
  List.Forall₂ (fun d c => c = d ∨ c = d.toUpper) word cs

lemma toLower_eq_iff {c d : Char} (hd : d.isLower = true) :
    c.toLower = d ↔ c = d ∨ c = d.toUpper := by
  have hd' : 'a'.val ≤ d.val ∧ d.val ≤ 'z'.val := by simpa [Char.isLower] using hd
  rw [Char.toUpper, dif_pos hd']
  simp only [Char.toLower, Char.ext_iff, UInt32.ext_iff]
  simp only [UInt32.le_iff_toNat_le] at hd'
  split_ifs with h <;> simp [UInt32.le_iff_toNat_le, UInt32.toNat_add] at h hd' ⊢ <;> omega

lemma isWord_iff {word cs : List Char} (hw : ∀ d ∈ word, d.isLower = true) :
    isWord word cs = true ↔ InAnyCase word cs := by
  rw [isWord, beq_iff_eq]
  induction word generalizing cs with
  | nil => cases cs <;> simp [InAnyCase]
  | cons d word ih =>
    rw [List.forall_mem_cons] at hw
    cases cs with
    | nil => simp [InAnyCase]
    | cons c cs =>
      rw [List.map_cons, List.cons_eq_cons, toLower_eq_iff hw.1, ih hw.2, InAnyCase, InAnyCase,
        List.forall₂_cons]

inductive Gives : List Char → List Char → Prop
  | mk {tag name rest value : List Char} : ':' ∉ tag → Trims tag name →
      InAnyCase ['u', 'r', 'l'] name → Trims rest value → value ≠ [] →
      Gives (tag ++ ':' :: rest) value

def IsUrlLine (line : List Char) : Prop := ∃ value, Gives line value

/-- Lines that are the same but for such that give no address, which one has and the other not. -/
inductive Pads : List (List Char) → List (List Char) → Prop
  | nil : Pads [] []
  | both {ls ls' : List (List Char)} (line : List Char) : Pads ls ls' →
      Pads (line :: ls) (line :: ls')
  | left {line : List Char} {ls ls' : List (List Char)} : ¬ IsUrlLine line → Pads ls ls' →
      Pads (line :: ls) ls'
  | right {line : List Char} {ls ls' : List (List Char)} : ¬ IsUrlLine line → Pads ls ls' →
      Pads ls (line :: ls')

def withCarriages (cs : List Char) : List Char :=
  cs.flatMap fun c => if c = '\n' then ['\r', '\n'] else [c]

variable {line value : List Char} {ls ls' : List (List Char)}

lemma isWord_url_iff {cs : List Char} :
    isWord ['u', 'r', 'l'] cs = true ↔ InAnyCase ['u', 'r', 'l'] cs :=
  isWord_iff (by simp [Char.isLower])

lemma lineUrl?_eq_some_iff : lineUrl? line = some value ↔ Gives line value := by
  rw [lineUrl?]
  constructor
  · intro h
    cases hs : splitOnce ':' line with
    | none => simp [hs] at h
    | some p =>
      obtain ⟨rfl, htag⟩ := splitOnce_eq_some_iff.mp hs
      simp only [hs, Option.ite_none_right_eq_some, Bool.and_eq_true, Option.some.injEq] at h
      obtain ⟨⟨hword, hne⟩, rfl⟩ := h
      exact .mk htag (trim_eq_iff.mp rfl) (isWord_url_iff.mp hword) (trim_eq_iff.mp rfl)
        (by simpa using hne)
  · rintro ⟨htag, hname, hword, hvalue, hne⟩
    rw [splitOnce_append htag]
    simp [trim_eq_iff.mpr hname, trim_eq_iff.mpr hvalue, isWord_url_iff.mpr hword, hne]

lemma lineUrl?_eq_none_iff : lineUrl? line = none ↔ ¬ IsUrlLine line := by
  simp [IsUrlLine, ← lineUrl?_eq_some_iff, Option.eq_none_iff_forall_ne_some]

lemma lineUrl?_append_carriage (line : List Char) : lineUrl? (line ++ ['\r']) = lineUrl? line := by
  by_cases hm : ':' ∈ line
  · obtain ⟨tag, rest, rfl, htag⟩ := List.eq_append_cons_of_mem hm
    rw [lineUrl?, lineUrl?, List.append_assoc, List.cons_append, splitOnce_append htag,
      splitOnce_append htag]
    simp only [trim_append_blank rest (c := '\r') rfl]
  · have hm' : ':' ∉ line ++ ['\r'] := by simpa using hm
    rw [lineUrl?, lineUrl?, splitOnce_eq_none_iff.mpr hm, splitOnce_eq_none_iff.mpr hm']

lemma not_isUrlLine_of_not_mem (h : ':' ∉ line) : ¬ IsUrlLine line := by
  rintro ⟨value, hvalue⟩
  cases hvalue
  simp at h

lemma IsUrlLine.of_append {tag rest : List Char} (h : IsUrlLine (tag ++ ':' :: rest))
    (htag : ':' ∉ tag) : InAnyCase ['u', 'r', 'l'] (trim tag) ∧ trim rest ≠ [] := by
  obtain ⟨value, hvalue⟩ := h
  rw [← lineUrl?_eq_some_iff, lineUrl?, splitOnce_append htag] at hvalue
  simp only [Option.ite_none_right_eq_some, Bool.and_eq_true, isWord_url_iff] at hvalue
  exact ⟨hvalue.1.1, by simpa using hvalue.1.2⟩

lemma not_isUrlLine_of_blank {tag blanks : List Char} (h : ∀ c ∈ blanks, isBlank c = true)
    (htag : ':' ∉ tag) : ¬ IsUrlLine (tag ++ ':' :: blanks) :=
  have hempty : trim blanks = [] :=
    trim_eq_iff.mpr ⟨[], blanks, by simp, by simp, h, by simp, by simp⟩
  fun hl => (hl.of_append htag).2 hempty

lemma not_isUrlLine_of_length {tag : List Char} (h : (trim tag).length ≠ 3) (htag : ':' ∉ tag)
    (rest : List Char) : ¬ IsUrlLine (tag ++ ':' :: rest) :=
  fun hl => h (hl.of_append htag).1.length_eq.symm

lemma Pads.findSome?_eq (h : Pads ls ls') : ls'.findSome? lineUrl? = ls.findSome? lineUrl? := by
  induction h with
  | nil => rfl
  | both line _ ih => rw [List.findSome?_cons, List.findSome?_cons, ih]
  | left hn _ ih => rw [List.findSome?_cons, lineUrl?_eq_none_iff.mpr hn, ih]
  | right hn _ ih => rw [List.findSome?_cons, lineUrl?_eq_none_iff.mpr hn, ih]

lemma withCarriages_of_not_mem (h : '\n' ∉ line) : withCarriages line = line := by
  induction line with
  | nil => rfl
  | cons c line ih =>
    rw [List.mem_cons, not_or] at h
    rw [withCarriages, List.flatMap_cons, if_neg (Ne.symm h.1), ← withCarriages, ih h.2]
    rfl

lemma withCarriages_append_cons (h : '\n' ∉ line) (rest : List Char) :
    withCarriages (line ++ '\n' :: rest) = line ++ '\r' :: '\n' :: withCarriages rest := by
  have hline : line.flatMap (fun c => if c = '\n' then ['\r', '\n'] else [c]) = line :=
    withCarriages_of_not_mem h
  rw [withCarriages, List.flatMap_append, hline]
  rfl

-- A line that ends in a carriage return already keeps it, as a blank at its end.
lemma exists_lines_withCarriages {cs : List Char} (h : Lines '\n' '\r' cs ls) :
    ∃ ls', Lines '\n' '\r' (withCarriages cs) ls' ∧
      ls'.findSome? lineUrl? = ls.findSome? lineUrl? := by
  induction h with
  | empty => exact ⟨[], .empty, rfl⟩
  | @opened line hn hne =>
    rw [withCarriages_of_not_mem hn]
    exact ⟨[line], .opened hn hne, rfl⟩
  | @closed line rest ls hn _ _ ih =>
    obtain ⟨ls', hls', heq⟩ := ih
    rw [withCarriages_append_cons hn]
    exact ⟨line :: ls', .returned hn hls', by rw [List.findSome?_cons, List.findSome?_cons, heq]⟩
  | @returned line rest ls hn _ ih =>
    obtain ⟨ls', hls', heq⟩ := ih
    have hn' : '\n' ∉ line ++ ['\r'] := by simpa using hn
    rw [List.append_cons, withCarriages_append_cons hn']
    refine ⟨(line ++ ['\r']) :: ls', .returned hn' hls', ?_⟩
    rw [List.findSome?_cons, List.findSome?_cons, lineUrl?_append_carriage, heq]

-- A line feed closes the last line, which loses a carriage return at its end.
lemma exists_lines_append {cs tail : List Char} {ts : List (List Char)}
    (h : Lines '\n' '\r' cs ls) (ht : Lines '\n' '\r' tail ts) :
    ∃ ls', Lines '\n' '\r' (cs ++ '\n' :: tail) (ls' ++ ts) ∧
      ∀ line' ∈ ls', line' = [] ∨ ∃ line ∈ ls, lineUrl? line' = lineUrl? line := by
  induction h with
  | empty => exact ⟨[[]], .closed (by simp) (by simp) ht, by simp⟩
  | @opened line hn hne =>
    by_cases hlast : line.getLast? = some '\r'
    · obtain ⟨front, rfl⟩ := List.getLast?_eq_some_iff.mp hlast
      have hfront : '\n' ∉ front := fun hm => hn (List.mem_append_left _ hm)
      rw [← List.append_cons]
      exact ⟨[front], .returned hfront ht, by simp [lineUrl?_append_carriage]⟩
    · exact ⟨[line], .closed hn hlast ht, by simp⟩
  | @closed line rest ls hn hlast _ ih =>
    obtain ⟨ls', hls', heq⟩ := ih
    rw [List.append_assoc]
    refine ⟨line :: ls', .closed hn hlast hls', ?_⟩
    grind
  | @returned line rest ls hn _ ih =>
    obtain ⟨ls', hls', heq⟩ := ih
    rw [List.append_assoc]
    refine ⟨line :: ls', .returned hn hls', ?_⟩
    grind

lemma url?_eq {text : String} (h : Lines '\n' '\r' text.toList ls) :
    url? text = (ls.findSome? lineUrl?).map String.ofList := by
  rw [url?, (lines_iff (by decide)).mp h]

lemma gives_written {url : List Char} (hne : url ≠ [])
    (hhead : ∀ c ∈ url.head?, isBlank c = false) (hlast : ∀ c ∈ url.getLast?, isBlank c = false) :
    Gives ("URL: ".toList ++ url) url := by
  have htag : Trims "URL".toList "URL".toList := trim_eq_iff.mp (by decide)
  have hurl : Trims (' ' :: url) url :=
    ⟨[' '], [], by simp, by simp [isBlank], by simp, hhead, hlast⟩
  exact .mk (by decide) htag (isWord_url_iff.mp (by decide)) hurl hne

theorem url?_reads_first (text : String) :
    (∃ ls, (∀ ls', Lines '\n' '\r' text.toList ls' ↔ ls' = ls) ∧
      (∀ url, url? text = some url ↔ ∃ before line after, ls = before ++ line :: after ∧
        Gives line url.toList ∧ ∀ l ∈ before, ¬ IsUrlLine l) ∧
      (url? text = none ↔ ∀ l ∈ ls, ¬ IsUrlLine l) ∧
      (∀ text' ls', Lines '\n' '\r' text'.toList ls' → Pads ls ls' → url? text' = url? text) ∧
      ∀ url rest, url ≠ "" → '\n' ∉ url.toList → (∀ c ∈ url.toList.head?, isBlank c = false) →
        (∀ c ∈ url.toList.getLast?, isBlank c = false) → (∀ l ∈ ls, ¬ IsUrlLine l) →
        url? (text ++ "\nURL: " ++ url ++ "\n" ++ rest) = some url) ∧
    url? (String.ofList (withCarriages text.toList)) = url? text ∧
    (∀ line, ':' ∉ line → ¬ IsUrlLine line) ∧
    (∀ tag blanks, (∀ c ∈ blanks, isBlank c = true) → ':' ∉ tag →
      ¬ IsUrlLine (tag ++ ':' :: blanks)) ∧
    ∀ rest, ¬ IsUrlLine ("#URL:".toList ++ rest) ∧ ¬ IsUrlLine ("Source0:".toList ++ rest) := by
  have hlines : Lines '\n' '\r' text.toList (lines '\n' '\r' text.toList) := lines_lines _
  generalize lines '\n' '\r' text.toList = ls at hlines
  have hurl := url?_eq hlines
  refine ⟨⟨ls, fun ls' => ?_, fun url => ?_, ?_, fun text' ls' hlines' hpads => ?_,
    fun url rest hne hn hhead hlast hnone => ?_⟩, ?_, fun _ => not_isUrlLine_of_not_mem,
    fun _ _ => not_isUrlLine_of_blank, fun rest => ⟨?_, ?_⟩⟩
  · rw [lines_iff (by decide), (lines_iff (by decide)).mp hlines]
  · simp only [hurl, Option.map_eq_some_iff, List.findSome?_eq_some_iff, lineUrl?_eq_some_iff,
      lineUrl?_eq_none_iff]
    constructor
    · rintro ⟨_, h, rfl⟩
      simpa using h
    · exact fun h => ⟨_, h, String.ofList_toList⟩
  · simp only [hurl, Option.map_eq_none_iff, List.findSome?_eq_none_iff, lineUrl?_eq_none_iff]
  · rw [url?_eq hlines', hurl, hpads.findSome?_eq]
  · have hgives := gives_written (by simpa using hne) hhead hlast
    have hclosed : Lines '\n' '\r' ("URL: ".toList ++ url.toList ++ '\n' :: rest.toList)
        (("URL: ".toList ++ url.toList) :: lines '\n' '\r' rest.toList) := by
      refine .closed (by simpa using hn) (fun hcr => ?_) (lines_lines _)
      rw [List.getLast?_append_of_ne_nil _ (by simpa using hne)] at hcr
      exact absurd (hlast _ hcr) (by decide)
    obtain ⟨ls', hls', hsame⟩ := exists_lines_append hlines hclosed
    have hnone' : ls'.findSome? lineUrl? = none := by
      rw [List.findSome?_eq_none_iff]
      intro line' hm
      rcases hsame line' hm with rfl | ⟨line, hline, heq⟩
      · rfl
      · rw [heq, lineUrl?_eq_none_iff.mpr (hnone line hline)]
    have htext : (text ++ "\nURL: " ++ url ++ "\n" ++ rest).toList =
        text.toList ++ '\n' :: ("URL: ".toList ++ url.toList ++ '\n' :: rest.toList) := by
      simp
    rw [url?_eq (htext ▸ hls'), List.findSome?_append, hnone', List.findSome?_cons,
      lineUrl?_eq_some_iff.mpr hgives]
    simp
  · obtain ⟨ls', hls', hsame⟩ := exists_lines_withCarriages hlines
    rw [url?_eq (by rwa [String.toList_ofList]), hurl, hsame]
  · have hlen : (trim "#URL".toList).length ≠ 3 := by decide
    exact not_isUrlLine_of_length hlen (by decide) rest
  · have hlen : (trim "Source0".toList).length ≠ 3 := by decide
    exact not_isUrlLine_of_length hlen (by decide) rest

theorem url?_reads_first_widget :
    Lines '\n' '\r' "Name: widget\r\n#URL: none".toList
        ["Name: widget".toList, "#URL: none".toList] ∧
      ¬ IsUrlLine "Name: widget".toList ∧ ¬ IsUrlLine "#URL: none".toList ∧
      url? ("Name: widget\r\n#URL: none" ++ "\nURL: " ++ "https://forge.example:8080/acme/widget" ++
        "\n" ++ "Url: https://forge.example/other") =
          some "https://forge.example:8080/acme/widget" := by
  obtain ⟨⟨ls, hls, -, -, -, hwritten⟩, -⟩ := url?_reads_first "Name: widget\r\n#URL: none"
  have hlines : Lines '\n' '\r' "Name: widget\r\n#URL: none".toList
      ["Name: widget".toList, "#URL: none".toList] := (lines_iff (by decide)).mpr (by decide)
  have hname : ¬ IsUrlLine "Name: widget".toList := lineUrl?_eq_none_iff.mp (by decide)
  have hcomment : ¬ IsUrlLine "#URL: none".toList := lineUrl?_eq_none_iff.mp (by decide)
  obtain rfl := (hls _).mp hlines
  have hnone : ∀ l ∈ ["Name: widget".toList, "#URL: none".toList], ¬ IsUrlLine l :=
    List.forall_mem_cons.mpr ⟨hname, List.forall_mem_singleton.mpr hcomment⟩
  exact ⟨hlines, hname, hcomment, hwritten _ _ (by decide) (by decide) (by simp [isBlank])
    (by simp [isBlank]) hnone⟩

end JobDispatch.SpecFile
