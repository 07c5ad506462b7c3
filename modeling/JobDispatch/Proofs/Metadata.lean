import JobDispatch.PackageConfig
import JobDispatch.Proofs.Recognition

namespace JobDispatch

def Json.IsText (v : Json) : Prop :=
  ∃ s, v = .text s ∧ s ≠ ""

inductive Json.Texts : List Json → List String → Prop
  | nil : Texts [] []
  | keep {items : List Json} {s : String} {xs : List String} : s ≠ "" → Texts items xs →
      Texts (.text s :: items) (s :: xs)
  | skip {items : List Json} {v : Json} {xs : List String} : ¬ v.IsText → Texts items xs →
      Texts (v :: items) xs

namespace JobConfig

variable {job : JobConfig} {key : String}

def HasText (job : JobConfig) (key s : String) : Prop :=
  job.metadata.lookup key = some (.text s) ∧ s ≠ ""

def TextOr (job : JobConfig) (key other s : String) : Prop :=
  job.HasText key s ∨ (¬ ∃ t, job.HasText key t) ∧ s = other

inductive Lists (job : JobConfig) (key : String) : List String → Prop
  | items {items : List Json} {xs : List String} :
      job.metadata.lookup key = some (.array items) → Json.Texts items xs → Lists job key xs
  | text {s : String} : job.HasText key s → Lists job key [s]
  | nothing : (∀ items, job.metadata.lookup key ≠ some (.array items)) →
      (¬ ∃ s, job.HasText key s) → Lists job key []

lemma text?_eq_some_iff {s : String} : job.text? key = some s ↔ job.HasText key s := by
  rw [text?, HasText]
  cases job.metadata.lookup key with
  | none => simp
  | some v =>
    cases v with
    | text t =>
      rw [Option.some.injEq, Json.text.injEq]
      exact nonempty?_eq_some_iff
    | _ => simp

lemma textOr_getD (job : JobConfig) (key other : String) :
    job.TextOr key other ((job.text? key).getD other) := by
  cases hs : job.text? key with
  | some s => exact .inl (text?_eq_some_iff.mp hs)
  | none =>
    refine .inr ⟨?_, rfl⟩
    rintro ⟨t, ht⟩
    simp [text?_eq_some_iff.mpr ht] at hs

lemma texts_filter (items : List Json) :
    Json.Texts items ((items.filterMap Json.asText?).filter (!·.isEmpty)) := by
  induction items with
  | nil => exact .nil
  | cons v items ih =>
    cases v with
    | text s =>
      by_cases hs : s = ""
      · subst hs
        exact .skip (by simp [Json.IsText]) ih
      · simpa [Json.asText?, hs] using .keep hs ih
    | _ => exact .skip (by simp [Json.IsText]) ih

lemma lists_texts (job : JobConfig) (key : String) : job.Lists key (job.texts key) := by
  rw [texts]
  cases hv : job.metadata.lookup key with
  | none => exact .nothing (by simp [hv]) (by simp [HasText, hv])
  | some v =>
    cases v with
    | array items => exact .items hv (texts_filter items)
    | text s =>
      by_cases hs : s = ""
      · subst hs
        exact .nothing (by simp [hv]) (by simp [HasText, hv])
      · simpa [hs] using .text ⟨hv, hs⟩
    | _ => exact .nothing (by simp [hv]) (by simp [HasText, hv])

end JobConfig

end JobDispatch
