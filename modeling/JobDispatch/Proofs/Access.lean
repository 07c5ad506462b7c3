import JobDispatch.Proofs.Recognition

namespace JobDispatch

namespace Json

variable {v w : Json} {key : String} {p q path : List String}

lemma at?_append (v : Json) (p q : List String) :
    v.at? (p ++ q) = (v.at? p).bind (·.at? q) := by
  induction p generalizing v with
  | nil => rfl
  | cons key p ih =>
    rw [List.cons_append, at?_cons, at?_cons, Option.bind_assoc]
    apply Option.bind_congr
    intro child _
    exact ih child

lemma member?_eq_some_iff :
    v.member? key = some w ↔ ∃ members, v = .object members ∧ members.lookup key = some w := by
  cases v <;> simp [member?]

lemma at?_concat_eq_some_iff :
    v.at? (p ++ [key]) = some w ↔
      ∃ members, v.at? p = some (.object members) ∧ members.lookup key = some w := by
  simp only [at?_append, Option.bind_eq_some_iff, at?_cons, at?_nil, member?_eq_some_iff]
  constructor
  · rintro ⟨_, hp, child, ⟨members, rfl, hl⟩, hw⟩
    obtain rfl := Option.some.inj hw
    exact ⟨members, hp, hl⟩
  · rintro ⟨members, hp, hl⟩
    exact ⟨_, hp, w, ⟨members, rfl, hl⟩, rfl⟩

lemma at?_eq_object_of_append (h : v.at? (p ++ key :: q) = some w) :
    ∃ members, v.at? p = some (.object members) ∧ members ≠ [] := by
  rw [← List.singleton_append, ← List.append_assoc, at?_append] at h
  obtain ⟨child, hc, -⟩ := Option.bind_eq_some_iff.mp h
  obtain ⟨members, hp, hl⟩ := at?_concat_eq_some_iff.mp hc
  refine ⟨members, hp, ?_⟩
  rintro rfl
  simp at hl

lemma at?_eq_object_of_prefix (h : v.at? path = some w) (hp : p <+: path) (hne : p ≠ path) :
    ∃ members, v.at? p = some (.object members) ∧ members ≠ [] := by
  obtain ⟨q, rfl⟩ := hp
  cases q with
  | nil => exact absurd (List.append_nil p).symm hne
  | cons key q => exact at?_eq_object_of_append h

lemma isTruthy_object {members : List (String × Json)} (h : members ≠ []) :
    (Json.object members).isTruthy = true := by
  simpa [isTruthy] using h

end Json

namespace Event

variable {e : Event} {p path : List String}

lemma isTruthyAt_iff : e.isTruthyAt path = true ↔ ∃ v, e.at? path = some v ∧ v.isTruthy = true := by
  simp [isTruthyAt, Option.any_eq_true]

lemma isTruthyAt_of_prefix {v : Json} (h : e.at? path = some v) (hp : p <+: path) (hne : p ≠ path) :
    e.isTruthyAt p = true := by
  obtain ⟨members, hm, hmem⟩ := Json.at?_eq_object_of_prefix h hp hne
  exact isTruthyAt_iff.mpr ⟨_, hm, Json.isTruthy_object hmem⟩

lemma HasText.isTruthyAt_prefix {s : String} (h : e.HasText path s) (hp : p <+: path) :
    e.isTruthyAt p = true := by
  by_cases hne : p = path
  · subst hne
    refine isTruthyAt_iff.mpr ⟨_, h.1, ?_⟩
    simpa [Json.isTruthy] using h.2
  · exact isTruthyAt_of_prefix h.1 hp hne

lemma isTruthyAt_iff_of_natural {n : UInt64} (h : e.natural? path = some n) :
    e.isTruthyAt path = true ↔ n ≠ 0 := by
  have hv : e.at? path = some (.number (.natural n)) := natural?_eq_some_iff.mp h
  simp [isTruthyAt, hv, Json.isTruthy, Json.Number.isZero]

theorem accessors_cohere :
    (∀ (v : Json) (p q : List String), v.at? (p ++ q) = (v.at? p).bind (·.at? q)) ∧
      (∀ (v w : Json) (p : List String) (key : String), v.at? (p ++ [key]) = some w ↔
        ∃ members, v.at? p = some (.object members) ∧ members.lookup key = some w) ∧
      (∀ (v w : Json) (path p : List String), v.at? path = some w → p <+: path → p ≠ path →
        ∃ members, v.at? p = some (.object members) ∧ members ≠ [] ∧
          (Json.object members).isTruthy = true) ∧
      (∀ (v w : Json) (p : List String), v.at? p = some w → (∀ members, w ≠ .object members) →
        ∀ key q, v.at? (p ++ key :: q) = none) ∧
      ∀ (e : Event) (path : List String),
        (∀ s, e.text? path = some s ↔ e.at? path = some (.text s) ∧ s ≠ "") ∧
          (∀ s, e.text? path = some s → s ≠ "" ∧ ∀ p, p <+: path → e.isTruthyAt p = true) ∧
          (∀ n, e.natural? path = some n ↔ e.at? path = some (.number (.natural n))) ∧
          ∀ n, e.natural? path = some n → (e.isTruthyAt path = true ↔ n ≠ 0) := by
  refine ⟨Json.at?_append, fun v w p key => Json.at?_concat_eq_some_iff, ?_, ?_, ?_⟩
  · intro v w path p h hp hne
    obtain ⟨members, hm, hmem⟩ := Json.at?_eq_object_of_prefix h hp hne
    exact ⟨members, hm, hmem, Json.isTruthy_object hmem⟩
  · intro v w p h hw key q
    rw [Option.eq_none_iff_forall_ne_some]
    intro u hu
    obtain ⟨members, hm, -⟩ := Json.at?_eq_object_of_append hu
    exact hw members (Option.some.inj (h.symm.trans hm))
  · intro e path
    refine ⟨fun s => text?_eq_some_iff, fun s hs => ?_, fun n => natural?_eq_some_iff, ?_⟩
    · have hs := text?_eq_some_iff.mp hs
      exact ⟨hs.2, fun p hp => hs.isTruthyAt_prefix hp⟩
    · exact fun n hn => isTruthyAt_iff_of_natural hn

theorem accessors_cohere_commented :
    let e : Event := ⟨.object [
      ("comment", .object [("user", .object [("login", .text "acme")])]),
      ("number", Json.ofNat 7)]⟩
    let path := ["comment", "user", "login"]
    e.text? path = some "acme" ∧ e.isTruthyAt ["comment", "user"] = true ∧
      e.at? (path ++ ["id"]) = none ∧ e.natural? ["number"] = some 7 ∧
      e.isTruthyAt ["number"] = true := by
  intro e path
  obtain ⟨-, -, -, hstop, hfinds⟩ := accessors_cohere
  obtain ⟨htext, hpassed, -, -⟩ := hfinds e path
  obtain ⟨-, -, hnatural, htruthy⟩ := hfinds e ["number"]
  have hs : e.text? path = some "acme" := (htext _).mpr ⟨rfl, by decide⟩
  have hn : e.natural? ["number"] = some 7 := (hnatural 7).mpr rfl
  refine ⟨hs, (hpassed _ hs).2 _ ⟨["login"], rfl⟩, ?_, hn, (htruthy 7 hn).mpr (by decide)⟩
  exact hstop e.payload (.text "acme") path rfl (fun members => nofun) "id" []

end Event

end JobDispatch
