import JobDispatch.Json.Value
import Mathlib.Tactic

namespace JobDispatch.Json

inductive Place
  | member (key : String)
  | item (i : Nat)
  deriving DecidableEq

def isScalar : Json → Bool
  | .array _ | .object _ => false
  | _ => true

def setMember (key : String) (members : List (String × Json)) : Option Json → List (String × Json)
  | some v => insert key v members
  | none => members.filter fun m => m.1 ≠ key

def setItem (i : Nat) (items : List Json) (v : Option Json) : List Json :=
  items.take i ++ v.toList ++ items.drop (i + 1)

/-- Changes by `f` what is at the end of some places, each inside the one before. Nothing may be
there, before or after, but what it would be in has to be. -/
def edit (f : Option Json → Option Json) : List Place → Option Json → Option Json
  | [], v => f v
  | .member key :: places, some (.object members) =>
    some (.object (setMember key members (edit f places (members.lookup key))))
  | .item i :: places, some (.array items) =>
    some (.array (setItem i items (edit f places items[i]?)))
  | _ :: _, v => v

lemma lookup_cons_eq_ite (key other : String) (v : Json) (members : List (String × Json)) :
    ((key, v) :: members).lookup other = if other = key then some v else members.lookup other := by
  by_cases h : other = key
  · rw [h, List.lookup_cons_self, if_pos rfl]
  · rw [List.lookup_cons, beq_false_of_ne h, if_neg h]

lemma lookup_insert (key other : String) (v : Json) (members : List (String × Json)) :
    (insert key v members).lookup other = if other = key then some v else members.lookup other := by
  induction members with
  | nil => exact lookup_cons_eq_ite ..
  | cons m members ih =>
    obtain ⟨k, w⟩ := m
    rw [insert, lookup_cons_eq_ite k]
    by_cases hk : key = k
    · subst hk
      rw [if_pos rfl, lookup_cons_eq_ite]
      split_ifs <;> rfl
    · rw [if_neg hk]
      have hne : other = key → other ≠ k := fun ho => ho ▸ hk
      by_cases hlt : key < k
      · rw [if_pos hlt, lookup_cons_eq_ite, lookup_cons_eq_ite]
      · rw [if_neg hlt, lookup_cons_eq_ite, ih]
        split_ifs with h₁ h₂
        · exact absurd h₁ (hne h₂)
        all_goals rfl

lemma lookup_setMember (key other : String) (members : List (String × Json)) (v : Option Json) :
    (setMember key members v).lookup other = if other = key then v else members.lookup other := by
  cases v with
  | some v => exact lookup_insert ..
  | none =>
    rw [setMember]
    induction members with
    | nil => simp
    | cons m members ih =>
      obtain ⟨k, w⟩ := m
      by_cases hk : k = key
      · subst hk
        rw [List.filter_cons_of_neg (by simp), ih, lookup_cons_eq_ite]
        split_ifs <;> rfl
      · rw [List.filter_cons_of_pos (by simp [hk]), lookup_cons_eq_ite, lookup_cons_eq_ite, ih]
        split_ifs with h₁ h₂
        · exact absurd (h₁.symm.trans h₂) hk
        all_goals rfl

lemma filter_isScalar_edit (f : Option Json → Option Json) (place : Place) (places : List Place)
    (v : Option Json) : (edit f (place :: places) v).filter isScalar = v.filter isScalar := by
  rcases v with _ | v
  · cases place <;> rfl
  · cases place <;> cases v <;> rfl

lemma bind_asText?_filter (v : Option Json) :
    (v.filter isScalar).bind asText? = v.bind asText? := by
  rcases v with _ | v
  · rfl
  · cases v <;> rfl

lemma bind_asNatural?_filter (v : Option Json) :
    (v.filter isScalar).bind asNatural? = v.bind asNatural? := by
  rcases v with _ | v
  · rfl
  · cases v <;> rfl

lemma at?_edit {f : Option Json → Option Json} {places : List Place} {path : List String}
    (h : ¬ places <+: path.map .member) (v : Option Json) :
    ((edit f places v).bind (at? · path)).filter isScalar =
      (v.bind (at? · path)).filter isScalar := by
  induction places generalizing path v with
  | nil => exact absurd (List.nil_prefix) h
  | cons place places ih =>
    cases path with
    | nil => simpa using filter_isScalar_edit f place places v
    | cons key path =>
      rcases v with _ | v
      · cases place <;> rfl
      cases v with
      | object members =>
        cases place with
        | item i => rfl
        | member key' =>
          have hpath : ∀ ms, ((some (.object ms) : Option Json).bind (at? · (key :: path))) =
              (ms.lookup key).bind (at? · path) := fun _ => rfl
          rw [edit, hpath, hpath, lookup_setMember]
          split_ifs with hk
          · subst hk
            exact ih (fun hp => h (List.cons_prefix_cons.mpr ⟨rfl, hp⟩)) _
          · rfl
      | _ => cases place <;> rfl

end JobDispatch.Json
