import JobDispatch.Project.Address
import JobDispatch.Proofs.Cutting

namespace JobDispatch.Address

open Text

variable {cs bare path : List Char}

def Bares (cs bare : List Char) : Prop :=
  ∃ slashes, Trims cs (bare ++ slashes) ∧ (∀ c ∈ slashes, c = '/') ∧ bare.getLast? ≠ some '/'

def Unsuffixes (bare stem : List Char) : Prop :=
  bare = stem ++ ".git".toList ∨ ¬ ".git".toList <:+ bare ∧ stem = bare

inductive HasPath (stem : List Char) : List Char → Prop
  | remote {scheme authority path : List Char} :
      First "://".toList stem scheme (authority ++ '/' :: path) → '/' ∉ authority →
      HasPath stem path
  | pathless {scheme authority : List Char} :
      First "://".toList stem scheme authority → '/' ∉ authority → HasPath stem []
  | short {host path : List Char} : ¬ "://".toList <:+: stem → stem = host ++ ':' :: path →
      ':' ∉ host → HasPath stem path
  | plain : ¬ "://".toList <:+: stem → ':' ∉ stem → HasPath stem stem

def PathOf (cs path : List Char) : Prop :=
  ∃ bare stem, Bares cs bare ∧ Unsuffixes bare stem ∧ HasPath stem path

def names (path : List Char) : List (List Char) :=
  (path.splitOn '/').filter fun name => !name.isEmpty

def IsName (name : List Char) : Prop :=
  name ≠ [] ∧ '/' ∉ name

lemma bares_iff : Bares cs bare ↔ dropEnd (· == '/') (trim cs) = bare := by
  rw [dropEnd_eq_iff]
  constructor
  · rintro ⟨slashes, ht, hs, hn⟩
    refine ⟨slashes, trim_eq_iff.mpr ht, by simpa using hs, ?_⟩
    intro c hc
    have hne : c ≠ '/' := by
      rintro rfl
      exact hn hc
    simpa using hne
  · rintro ⟨slashes, ht, hs, hn⟩
    refine ⟨slashes, trim_eq_iff.mp ht, by simpa using hs, fun h => ?_⟩
    simpa using hn '/' h

lemma HasPath.path?_eq {stem : List Char} (h : HasPath stem path) :
    (path? stem).getD [] = path := by
  cases h with
  | remote hf hn =>
    have ha : after? [':', '/', '/'] stem = some _ := after?_eq_some_iff.mpr ⟨_, hf⟩
    simp only [path?, ha, splitOnce_append hn, Option.map_some, Option.getD_some]
  | pathless hf hn =>
    have ha : after? [':', '/', '/'] stem = some _ := after?_eq_some_iff.mpr ⟨_, hf⟩
    simp only [path?, ha, splitOnce_eq_none_iff.mpr hn, Option.map_none, Option.getD_none]
  | short hi heq hn =>
    have ha : after? [':', '/', '/'] stem = none := after?_eq_none_iff.mpr hi
    have hs : splitOnce ':' stem = some _ := splitOnce_eq_some_iff.mpr ⟨heq, hn⟩
    simp only [path?, ha, hs, Option.elim_some, Option.getD_some]
  | plain hi hn =>
    have ha : after? [':', '/', '/'] path = none := after?_eq_none_iff.mpr hi
    simp only [path?, ha, splitOnce_eq_none_iff.mpr hn, Option.elim_none, Option.getD_some]

lemma hasPath_path? (stem : List Char) : HasPath stem ((path? stem).getD []) := by
  rw [path?]
  cases ha : after? [':', '/', '/'] stem with
  | some rest =>
    obtain ⟨scheme, hf⟩ := after?_eq_some_iff.mp ha
    cases hs : splitOnce '/' rest with
    | none =>
      simp only [hs]
      exact .pathless hf (splitOnce_eq_none_iff.mp hs)
    | some cut =>
      obtain ⟨rfl, hn⟩ := splitOnce_eq_some_iff.mp hs
      simp only [hs]
      exact .remote hf hn
  | none =>
    have hi := after?_eq_none_iff.mp ha
    cases hs : splitOnce ':' stem with
    | none => exact .plain hi (splitOnce_eq_none_iff.mp hs)
    | some cut =>
      obtain ⟨heq, hn⟩ := splitOnce_eq_some_iff.mp hs
      exact .short hi heq hn

lemma pathOf_iff : PathOf cs path ↔ (path? (core cs)).getD [] = path := by
  have hc : core cs = dropSuffix ".git".toList (dropEnd (· == '/') (trim cs)) := rfl
  constructor
  · rintro ⟨bare, stem, hb, hu, hp⟩
    rw [hc, bares_iff.mp hb, dropSuffix_eq_iff.mpr hu]
    exact hp.path?_eq
  · rintro rfl
    exact ⟨_, _, bares_iff.mpr rfl, dropSuffix_eq_iff.mp rfl, hasPath_path? _⟩

lemma segments_eq_names (path : List Char) : segments path = names path := by
  rw [segments, pieces_eq_splitOn, names]

section Names

variable {address owner repo : String}

lemma nonempty?_of_mem_names {name : List Char} (h : name ∈ names path) :
    nonempty? (String.ofList name) = some (String.ofList name) := by
  have hn : name ≠ [] := by
    simp only [names, List.mem_filter] at h
    simpa using h.2
  obtain ⟨c, cs, rfl⟩ := List.exists_cons_of_ne_nil hn
  simp [nonempty?, String.isEmpty_iff]

-- No part between slashes is empty, so that the last two make names without fail.
lemma ownerAndRepo?_eq (h : PathOf address.toList path) :
    ownerAndRepo? address =
      match (names path).reverse with
      | repo :: owner :: _ => some (String.ofList owner, String.ofList repo)
      | _ => none := by
  rw [← pathOf_iff.mp h, ownerAndRepo?]
  cases path? (core address.toList) with
  | none => rfl
  | some path =>
    simp only [Option.getD_some, segments_eq_names, Option.bind_eq_bind, Option.bind_some]
    rcases hnames : (names path).reverse with _ | ⟨repo, _ | ⟨owner, front⟩⟩
    · rfl
    · rfl
    · have hrepo : repo ∈ names path := List.mem_reverse.mp (by simp [hnames])
      have howner : owner ∈ names path := List.mem_reverse.mp (by simp [hnames])
      simp only [nonempty?_of_mem_names hrepo, nonempty?_of_mem_names howner, Option.bind_some]
      rfl

lemma ownerAndRepo?_eq_some_iff (h : PathOf address.toList path) :
    ownerAndRepo? address = some (owner, repo) ↔
      ∃ front, names path = front ++ [owner.toList, repo.toList] := by
  rw [ownerAndRepo?_eq h]
  constructor
  · intro hsome
    split at hsome
    · rename_i r o front hnames
      cases hsome
      refine ⟨front.reverse, ?_⟩
      rw [← List.reverse_reverse (names path), hnames]
      simp
    · cases hsome
  · rintro ⟨front, hnames⟩
    simp [hnames]

lemma ownerAndRepo?_eq_none_iff (h : PathOf address.toList path) :
    ownerAndRepo? address = none ↔ (names path).length < 2 := by
  rw [ownerAndRepo?_eq h, ← List.length_reverse]
  rcases (names path).reverse with _ | ⟨r, _ | ⟨o, front⟩⟩ <;> simp

lemma names_append_slash (xs ys : List Char) :
    names (xs ++ '/' :: ys) = names xs ++ names ys := by
  simp only [names, List.splitOn_eq_splitOnP, ← List.filter_append]
  rw [List.splitOnP_append_cons xs ys (by simp)]

lemma names_of_isName {name : List Char} (h : IsName name) : names name = [name] := by
  rw [names, List.splitOn_eq_singleton h.2]
  simp [h.1]

lemma names_append_slashes {slashes : List Char} (h : ∀ c ∈ slashes, c = '/') (xs : List Char) :
    names (xs ++ slashes) = names xs := by
  induction slashes generalizing xs with
  | nil => rw [List.append_nil]
  | cons c slashes ih =>
    rw [List.forall_mem_cons] at h
    rw [h.1, names_append_slash, ← List.nil_append slashes, ih h.2]
    exact List.append_nil _

lemma names_append_name {before name : List Char} (hb : ∀ c ∈ before.getLast?, c = '/')
    (h : IsName name) : names (before ++ name) = names before ++ [name] := by
  rcases List.eq_nil_or_concat before with rfl | ⟨start, c, rfl⟩
  · exact names_of_isName h
  · have hc : c = '/' := hb c (by simp)
    rw [hc, List.concat_eq_append, List.append_assoc, List.singleton_append, names_append_slash,
      names_of_isName h, names_append_slashes (by simp)]

lemma exists_of_names_concat {front : List (List Char)} {name : List Char}
    (h : names path = front ++ [name]) :
    ∃ before slashes, path = before ++ name ++ slashes ∧ (∀ c ∈ slashes, c = '/') ∧
      (∀ c ∈ before.getLast?, c = '/') ∧ names before = front ∧ IsName name := by
  obtain ⟨slashes, hpath, hslashes, hend⟩ :=
    dropEnd_eq_iff.mp (rfl : dropEnd (· == '/') path = _)
  generalize dropEnd (· == '/') path = body at hpath hend
  obtain ⟨last, hbody, hlast, hbefore⟩ := dropEnd_eq_iff.mp (rfl : dropEnd (· != '/') body = _)
  generalize dropEnd (· != '/') body = before at hbody hbefore
  simp only [beq_iff_eq] at hslashes
  simp only [bne_eq_false_iff_eq] at hbefore
  have hn : '/' ∉ last := fun hm => by simpa using hlast '/' hm
  rw [hpath, names_append_slashes hslashes] at h
  -- Without a last name the path would end in a slash, or be empty and have no names at all.
  have hne : last ≠ [] := by
    rintro rfl
    rw [List.append_nil] at hbody
    subst hbody
    rcases List.eq_nil_or_concat body with rfl | ⟨start, c, rfl⟩
    · simp [names] at h
    · have hc : c = '/' := hbefore c (by simp)
      simp [hc] at hend
  rw [hbody, names_append_name hbefore ⟨hne, hn⟩] at h
  obtain ⟨hfront, hname⟩ := List.append_inj' h rfl
  cases hname
  exact ⟨before, slashes, by rw [hpath, hbody], hslashes, hbefore, hfront, hne, hn⟩

end Names

section Place

def Ends (tail : List Char) : Prop :=
  ∃ slashes ending slashes' blanks, tail = slashes ++ ending ++ slashes' ++ blanks ∧
    (∀ c ∈ slashes, c = '/') ∧ (ending = [] ∨ ending = ".git".toList) ∧
    (∀ c ∈ slashes', c = '/') ∧ ∀ c ∈ blanks, isBlank c = true

structure Place (cs owner repo : List Char) where
  start : List Char
  slashes : List Char
  tail : List Char
  eq : cs = start ++ owner ++ slashes ++ repo ++ tail
  slashes_ne : slashes ≠ []
  slashes_eq : ∀ c ∈ slashes, c = '/'
  ends : Ends tail

def Place.Behind {cs owner repo : List Char} (place : Place cs owner repo) (scheme : List Char) :
    Prop :=
  ∃ lead authority rest, (∀ c ∈ lead, isBlank c = true) ∧ '/' ∉ authority ∧
    place.start = lead ++ scheme ++ "://".toList ++ authority ++ '/' :: rest

variable {stem owner repo : List Char}

lemma Unsuffixes.exists_eq (h : Unsuffixes bare stem) :
    ∃ ending, bare = stem ++ ending ∧ (ending = [] ∨ ending = ".git".toList) := by
  rcases h with h | ⟨-, rfl⟩
  · exact ⟨_, h, .inr rfl⟩
  · exact ⟨[], (List.append_nil _).symm, .inl rfl⟩

lemma Unsuffixes.first (h : Unsuffixes bare stem) {scheme after : List Char}
    (hf : First "://".toList bare scheme after) :
    ∃ rest, First "://".toList stem scheme rest := by
  obtain ⟨ending, rfl, hending⟩ := h.exists_eq
  have hc : '/' ∉ ending := by
    rcases hending with rfl | rfl <;> decide
  have hword : First (":/".toList ++ ['/']) (stem ++ ending) scheme after := hf
  exact hword.of_append hc

lemma HasPath.exists_eq (h : HasPath stem path) (hne : path ≠ []) :
    ∃ host, stem = host ++ path ∧ ∀ scheme after, First "://".toList stem scheme after →
      ∃ authority, '/' ∉ authority ∧ host = scheme ++ "://".toList ++ authority ++ ['/'] := by
  cases h with
  | @remote scheme authority path hf hn =>
    refine ⟨scheme ++ "://".toList ++ authority ++ ['/'], by rw [hf.eq]; simp, ?_⟩
    intro scheme' after hf'
    obtain ⟨rfl, -⟩ := hf.unique hf'
    exact ⟨authority, hn, rfl⟩
  | pathless => exact absurd rfl hne
  | @short host path hi heq hn =>
    refine ⟨host ++ [':'], by rw [heq]; simp, ?_⟩
    intro scheme after hf
    exact absurd ⟨scheme, after, hf.eq.symm⟩ hi
  | plain hi hn =>
    refine ⟨[], rfl, ?_⟩
    intro scheme after hf
    exact absurd ⟨scheme, after, hf.eq.symm⟩ hi

lemma exists_place {front : List (List Char)} (hb : Bares cs bare) (hu : Unsuffixes bare stem)
    (hp : HasPath stem path) (h : names path = front ++ [owner, repo]) :
    IsName owner ∧ IsName repo ∧ ∃ place : Place cs owner repo,
      ∀ scheme after, First "://".toList bare scheme after → place.Behind scheme := by
  rw [List.append_cons] at h
  obtain ⟨before, slashes₁, hpath, hslashes₁, hlast, hnames, hrepo⟩ := exists_of_names_concat h
  obtain ⟨start, slashes, hbefore, hslashes, -, -, howner⟩ := exists_of_names_concat hnames
  -- What is before the repository ends in a slash, which the owner does not have.
  have hslashes_ne : slashes ≠ [] := by
    rintro rfl
    rw [List.append_nil] at hbefore
    have hc : owner.getLast howner.1 = '/' :=
      hlast _ (by rw [hbefore, List.getLast?_append, List.getLast?_eq_some_getLast howner.1]; rfl)
    exact howner.2 (hc ▸ List.getLast_mem howner.1)
  have hne : path ≠ [] := by
    rintro rfl
    simp [names] at h
  obtain ⟨host, hstem, hhost⟩ := hp.exists_eq hne
  obtain ⟨ending, hbare, hending⟩ := hu.exists_eq
  obtain ⟨slashes₂, ⟨lead, blanks, hcs, hlead, hblanks, -⟩, hslashes₂, -⟩ := hb
  have hends : Ends (slashes₁ ++ ending ++ slashes₂ ++ blanks) :=
    ⟨_, _, _, _, rfl, hslashes₁, hending, hslashes₂, hblanks⟩
  refine ⟨howner, hrepo, ⟨lead ++ host ++ start, slashes, _, ?_, hslashes_ne, hslashes, hends⟩, ?_⟩
  · rw [hcs, hbare, hstem, hpath, hbefore]
    simp only [List.append_assoc]
  · intro scheme after hf
    obtain ⟨rest, hf⟩ := hu.first hf
    obtain ⟨authority, hauthority, rfl⟩ := hhost scheme rest hf
    exact ⟨lead, authority, start, hlead, hauthority, by simp⟩

end Place

section Pathless

lemma names_cons_slash (xs : List Char) : names ('/' :: xs) = names xs :=
  names_append_slash [] xs

lemma length_names_le {name : List Char} (hn : '/' ∉ name) : (names name).length ≤ 1 := by
  rcases eq_or_ne name [] with rfl | hne
  · simp [names]
  · rw [names_of_isName ⟨hne, hn⟩, List.length_singleton]

lemma length_names_of_prefix {authority : List Char} (hn : '/' ∉ authority)
    (h : path <+: '/' :: '/' :: authority) : (names path).length ≤ 1 := by
  rcases List.prefix_cons_iff.mp h with rfl | ⟨rest, rfl, hrest⟩
  · exact length_names_le List.not_mem_nil
  rw [names_cons_slash]
  rcases List.prefix_cons_iff.mp hrest with rfl | ⟨name, rfl, hname⟩
  · exact length_names_le List.not_mem_nil
  rw [names_cons_slash]
  exact length_names_le fun hm => hn (hname.subset hm)

lemma length_names_of_pathless {scheme authority : List Char} (hs : ':' ∉ scheme)
    (ha : '/' ∉ authority) (h : PathOf (scheme ++ "://".toList ++ authority) path) :
    (names path).length ≤ 1 := by
  obtain ⟨bare, stem, ⟨slashes, ⟨lead, blanks, hcs, hlead, hblanks, -⟩, hslashes, -⟩, hu, hp⟩ := h
  obtain ⟨ending, rfl, hending⟩ := hu.exists_eq
  have hcolon : ':' ∉ lead := fun hm => absurd (hlead _ hm) (by decide)
  cases hp with
  | @remote scheme' authority' path hf hn =>
    -- What follows the first `://` is the authority, and a slash follows it on the stem.
    have hfirst := first_of_not_mem "//".toList hs authority
    have hcut : scheme ++ "://".toList ++ authority = (lead ++ scheme') ++ "://".toList ++
        (authority' ++ '/' :: path ++ ending ++ slashes ++ blanks) := by
      rw [hcs, hf.eq]
      simp
    have hsuffix := hfirst.suffix hcut
    exact absurd (hsuffix.subset (by simp)) ha
  | pathless => simp [names]
  | @short host path hi heq hn =>
    -- The host ends at the first colon, so that the path is a start of `//` and the authority.
    have hcut : scheme ++ ':' :: ("//".toList ++ authority) =
        (lead ++ host) ++ ':' :: (path ++ (ending ++ slashes ++ blanks)) := by
      have hword : "://".toList = ':' :: "//".toList := rfl
      rw [← List.singleton_append, ← List.append_assoc, ← List.append_assoc]
      simpa [heq, hword] using hcs
    have hrest := splitOnce_append hs ("//".toList ++ authority)
    rw [hcut, splitOnce_append (by simp [hcolon, hn])] at hrest
    simp only [Option.some.injEq, Prod.mk.injEq] at hrest
    exact length_names_of_prefix ha ⟨_, hrest.2⟩
  | plain hi hn =>
    have hm : ':' ∈ lead ++ (path ++ ending ++ slashes) ++ blanks := by
      rw [← hcs]
      simp
    have hblank : ':' ∉ blanks := fun hm => absurd (hblanks _ hm) (by decide)
    have hslash : ':' ∉ slashes := fun hm => absurd (hslashes _ hm) (by decide)
    have hend : ':' ∉ ending := by
      rcases hending with rfl | rfl <;> decide
    simp [hcolon, hn, hblank, hslash, hend] at hm

end Pathless

theorem ownerAndRepo?_reads_path (address : String) :
    (∃ path, (∀ path', PathOf address.toList path' ↔ path' = path) ∧
      (ownerAndRepo? address = none ↔ (names path).length < 2) ∧
      ∀ owner repo, ownerAndRepo? address = some (owner, repo) ↔
        ∃ front, names path = front ++ [owner.toList, repo.toList]) ∧
    (∀ owner repo, ownerAndRepo? address = some (owner, repo) →
      IsName owner.toList ∧ IsName repo.toList ∧
      ∃ place : Place address.toList owner.toList repo.toList, ∀ bare scheme after,
        Bares address.toList bare → First "://".toList bare scheme after →
          place.Behind scheme) ∧
    ∀ scheme authority, address = scheme ++ "://" ++ authority → ':' ∉ scheme.toList →
      '/' ∉ authority.toList → ownerAndRepo? address = none := by
  obtain ⟨path, hpath⟩ : ∃ path, PathOf address.toList path := ⟨_, pathOf_iff.mpr rfl⟩
  refine ⟨⟨path, fun path' => ?_, ownerAndRepo?_eq_none_iff hpath,
    fun owner repo => ownerAndRepo?_eq_some_iff hpath⟩, ?_, ?_⟩
  · rw [pathOf_iff, pathOf_iff.mp hpath]
    exact eq_comm
  · intro owner repo hsome
    obtain ⟨front, hnames⟩ := (ownerAndRepo?_eq_some_iff hpath).mp hsome
    obtain ⟨bare, stem, hb, hu, hp⟩ := hpath
    obtain ⟨howner, hrepo, place, hplace⟩ := exists_place hb hu hp hnames
    refine ⟨howner, hrepo, place, fun bare' scheme after hb' hfirst => ?_⟩
    have hbare : bare' = bare := (bares_iff.mp hb').symm.trans (bares_iff.mp hb)
    exact hplace scheme after (hbare ▸ hfirst)
  · rintro scheme authority rfl hs ha
    rw [String.toList_append, String.toList_append] at hpath
    have hlen := length_names_of_pathless hs ha hpath
    exact (ownerAndRepo?_eq_none_iff (by simpa using hpath)).mpr (Nat.lt_succ_of_le hlen)

section Spelling

variable {stem ending owner repo : List Char}

lemma pathOf_append {lead slashes trail : List Char} (hp : HasPath stem path)
    (hlead : ∀ c ∈ lead, isBlank c = true) (hhead : ∀ c ∈ stem.head?, isBlank c = false)
    (hlast : ∃ c ∈ stem.getLast?, c ≠ '/' ∧ isBlank c = false)
    (hending : ending = [] ∧ ¬ ".git".toList <:+ stem ∨ ending = ".git".toList)
    (hslashes : ∀ c ∈ slashes, c = '/') (htrail : ∀ c ∈ trail, isBlank c = true) :
    PathOf (lead ++ stem ++ ending ++ slashes ++ trail) path := by
  have hu : Unsuffixes (stem ++ ending) stem := by
    rcases hending with ⟨rfl, hn⟩ | rfl
    · exact .inr ⟨by rwa [List.append_nil], (List.append_nil _).symm⟩
    · exact .inl rfl
  have hbare : ∃ c ∈ (stem ++ ending).getLast?, c ≠ '/' ∧ isBlank c = false := by
    rcases hending with ⟨rfl, -⟩ | rfl
    · rwa [List.append_nil]
    · exact ⟨'t', by rw [List.getLast?_append]; rfl, by decide, by decide⟩
  obtain ⟨c, hc, hslash, hblank⟩ := hbare
  have hend : ∀ d ∈ (stem ++ ending ++ slashes).getLast?, isBlank d = false := by
    intro d hd
    rcases List.eq_nil_or_concat slashes with rfl | ⟨front, e, rfl⟩
    · rw [List.append_nil] at hd
      cases Option.mem_unique hc hd
      exact hblank
    · rw [List.concat_eq_append, ← List.append_assoc, List.getLast?_concat] at hd
      cases hd
      rw [hslashes d (by simp)]
      rfl
  have hstart : ∀ d ∈ (stem ++ ending ++ slashes).head?, isBlank d = false := by
    obtain ⟨d, hd, -⟩ := hlast
    cases stem with
    | nil => cases hd
    | cons a stem => exact hhead
  refine ⟨stem ++ ending, stem, ⟨slashes, ⟨lead, trail, ?_, hlead, htrail, hstart, hend⟩,
    hslashes, fun h => ?_⟩, hu, hp⟩
  · simp only [List.append_assoc]
  · exact hslash (Option.mem_unique hc h)

lemma intercalate_slash (extra : List (List Char)) (owner repo : List Char) :
    ['/'].intercalate (extra ++ [owner, repo]) =
      extra.flatMap (· ++ ['/']) ++ (owner ++ '/' :: repo) := by
  induction extra with
  | nil => simp [List.intercalate_cons_cons]
  | cons name extra ih =>
    obtain ⟨next, rest, hrest⟩ := List.exists_cons_of_ne_nil
      (List.append_ne_nil_of_right_ne_nil extra (List.cons_ne_nil owner [repo]))
    rw [List.cons_append, hrest, List.intercalate_cons_cons, ← hrest, ih, List.flatMap_cons]
    simp only [List.append_assoc]

lemma names_intercalate (extra : List (List Char)) (ho : IsName owner) (hr : IsName repo) :
    names (['/'].intercalate (extra ++ [owner, repo])) = extra.flatMap names ++ [owner, repo] := by
  rw [intercalate_slash]
  induction extra with
  | nil =>
    rw [List.flatMap_nil, List.nil_append, names_append_slash, names_of_isName ho,
      names_of_isName hr]
    rfl
  | cons name extra ih =>
    rw [List.flatMap_cons, List.append_assoc, List.append_assoc, List.singleton_append,
      names_append_slash, ih, List.flatMap_cons, List.append_assoc]

end Spelling

def IsWord (s : String) : Prop :=
  s ≠ "" ∧ ∀ c ∈ s.toList, c ≠ '/' ∧ c ≠ ':' ∧ isBlank c = false

inductive Spells (owner repo : String) : String → Prop
  | web {scheme authority : String} (extra : List String) :
      IsWord scheme → '/' ∉ authority.toList → Spells owner repo
        (scheme ++ "://" ++ authority ++ "/" ++ "/".intercalate (extra ++ [owner, repo]))
  | short {host : String} : IsWord host → Spells owner repo (host ++ ":" ++ owner ++ "/" ++ repo)

section Spells

variable {owner repo body : String}

lemma IsWord.isName (h : IsWord owner) : IsName owner.toList :=
  ⟨by simpa using h.1, fun hm => (h.2 _ hm).1 rfl⟩

lemma IsWord.not_colon (h : IsWord owner) : ':' ∉ owner.toList :=
  fun hm => (h.2 _ hm).2.1 rfl

lemma IsWord.not_infix {host : String} (hh : IsWord host) (ho : IsWord owner) (hr : IsWord repo) :
    ¬ "://".toList <:+: host.toList ++ ':' :: (owner.toList ++ '/' :: repo.toList) := by
  refine not_infix_append "//".toList hh.not_colon ?_
  rw [List.infix_cons_iff, List.cons_prefix_cons]
  rintro (⟨-, hp⟩ | hi)
  · obtain ⟨c, rest, hc⟩ := List.exists_cons_of_ne_nil ho.isName.1
    have hslash := ho.isName.2
    rw [hc] at hp hslash
    exact hslash ((List.cons_prefix_cons.mp hp).1 ▸ List.mem_cons_self)
  · have hm : ':' ∈ owner.toList ++ '/' :: repo.toList := hi.subset List.mem_cons_self
    simp [ho.not_colon, hr.not_colon] at hm

lemma Spells.hasPath (h : Spells owner repo body) (ho : IsWord owner) (hr : IsWord repo) :
    ∃ path front, HasPath body.toList path ∧
      names path = front ++ [owner.toList, repo.toList] := by
  cases h with
  | @web scheme authority extra hs ha =>
    have hnames := names_intercalate (extra.map String.toList) ho.isName hr.isName
    have hf := first_of_not_mem "//".toList hs.not_colon
      (authority.toList ++ '/' :: ['/'].intercalate (extra.map String.toList ++
        [owner.toList, repo.toList]))
    refine ⟨_, _, ?_, hnames⟩
    simpa [String.toList_intercalate] using HasPath.remote hf ha
  | @short host hh =>
    have heq : (host ++ ":" ++ owner ++ "/" ++ repo).toList =
        host.toList ++ ':' :: (owner.toList ++ '/' :: repo.toList) := by simp
    refine ⟨owner.toList ++ '/' :: repo.toList, [], .short ?_ heq hh.not_colon, ?_⟩
    · rw [heq]
      exact hh.not_infix ho hr
    · rw [names_append_slash, names_of_isName ho.isName, names_of_isName hr.isName]
      rfl

lemma Spells.exists_eq (h : Spells owner repo body) :
    ∃ word rest, IsWord word ∧ body.toList = word.toList ++ rest ++ '/' :: repo.toList := by
  cases h with
  | @web scheme authority extra hs ha =>
    refine ⟨scheme, "://".toList ++ authority.toList ++ '/' ::
      ((extra.map String.toList).flatMap (· ++ ['/']) ++ owner.toList), hs, ?_⟩
    have hpath := intercalate_slash (extra.map String.toList) owner.toList repo.toList
    simp [String.toList_intercalate, hpath]
  | @short host hh => exact ⟨host, ':' :: owner.toList, hh, by simp⟩

theorem ownerAndRepo?_of_spells (ho : IsWord owner) (hr : IsWord repo)
    (hgit : ¬ ".git".toList <:+ repo.toList) (hbody : Spells owner repo body)
    {lead ending trail : String} (hlead : ∀ c ∈ lead.toList, isBlank c = true)
    (hending : ending = "" ∨ ending = ".git") (htrail : ∀ c ∈ trail.toList, isBlank c = true)
    (n : ℕ) :
    ownerAndRepo? (lead ++ body ++ ending ++ String.ofList (List.replicate n '/') ++ trail) =
      some (owner, repo) := by
  obtain ⟨path, front, hpath, hnames⟩ := hbody.hasPath ho hr
  obtain ⟨word, rest, hword, heq⟩ := hbody.exists_eq
  have hhead : ∀ c ∈ body.toList.head?, isBlank c = false := by
    obtain ⟨c, cs, hc⟩ := List.exists_cons_of_ne_nil hword.isName.1
    have hblank := (hword.2 c (by simp [hc])).2.2
    rw [heq, hc]
    rintro d ⟨⟩
    exact hblank
  have hlast : ∃ c ∈ body.toList.getLast?, c ≠ '/' ∧ isBlank c = false := by
    have hmem := List.getLast_mem hr.isName.1
    refine ⟨_, ?_, (hr.2 _ hmem).1, (hr.2 _ hmem).2.2⟩
    rw [heq, List.append_cons, List.getLast?_append, List.getLast?_eq_some_getLast hr.isName.1]
    rfl
  have hending : ending.toList = [] ∧ ¬ ".git".toList <:+ body.toList ∨
      ending.toList = ".git".toList := by
    rcases hending with rfl | rfl
    · refine .inl ⟨rfl, fun hs => hgit ?_⟩
      rw [heq] at hs
      exact suffix_of_suffix_append_cons (by decide) hs
    · exact .inr rfl
  have hslashes : ∀ c ∈ List.replicate n '/', c = '/' := fun c hc => List.eq_of_mem_replicate hc
  have hp := pathOf_append hpath hlead hhead hlast hending hslashes htrail
  refine (ownerAndRepo?_eq_some_iff ?_).mpr ⟨front, hnames⟩
  simpa using hp

lemma isWord_of_all {s : String} (hne : s ≠ "")
    (h : s.toList.all fun c => c != '/' && c != ':' && !isBlank c) : IsWord s := by
  refine ⟨hne, fun c hc => ?_⟩
  simpa [and_assoc] using List.all_eq_true.mp h c hc

theorem ownerAndRepo?_widget :
    IsWord "acme" ∧ IsWord "widget" ∧ ¬ ".git".toList <:+ "widget".toList ∧
      Spells "acme" "widget" "ssh://git@forge.example:8080//a: b/acme/widget" ∧
      (∀ c ∈ "\u3000\t".toList, isBlank c = true) ∧ (∀ c ∈ " \n".toList, isBlank c = true) ∧
      ownerAndRepo? "\u3000\tssh://git@forge.example:8080//a: b/acme/widget.git// \n" =
        some ("acme", "widget") := by
  have howner : IsWord "acme" := isWord_of_all (by decide) (by decide)
  have hrepo : IsWord "widget" := isWord_of_all (by decide) (by decide)
  have hgit : ¬ ".git".toList <:+ "widget".toList := by decide
  have hscheme : IsWord "ssh" := isWord_of_all (by decide) (by decide)
  have hauthority : '/' ∉ "git@forge.example:8080".toList := by decide
  have hbody : Spells "acme" "widget" "ssh://git@forge.example:8080//a: b/acme/widget" :=
    .web ["", "a: b"] hscheme hauthority
  have hlead : ∀ c ∈ "\u3000\t".toList, isBlank c = true := List.all_eq_true.mp (by decide)
  have hending : ".git" = "" ∨ ".git" = ".git" := .inr rfl
  have htrail : ∀ c ∈ " \n".toList, isBlank c = true := List.all_eq_true.mp (by decide)
  exact ⟨howner, hrepo, hgit, hbody, hlead, htrail,
    ownerAndRepo?_of_spells howner hrepo hgit hbody hlead hending htrail 2⟩

end Spells

end JobDispatch.Address
