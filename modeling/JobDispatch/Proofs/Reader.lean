import Mathlib
import JobDispatch.Json.Reader
import JobDispatch.Proofs.Spelling

/-! What a reader gives for the document that a value is written to. A JSON value is given back when
it was read in the same place, since its members are in order by then and it is no deeper than
before. Other floats in it change neither. -/

namespace JobDispatch.Json

abbrev Sorted (ms : List (String × Json)) : Prop :=
  ms.Pairwise fun m m' => m.1 < m'.1

section Members

variable {key : String} {value : Json} {m : String × Json} {ms : List (String × Json)}

lemma mem_insert (h : m ∈ insert key value ms) : m = (key, value) ∨ m ∈ ms := by
  induction ms with
  | nil => simpa [insert] using h
  | cons m' ms ih =>
    obtain ⟨k, v⟩ := m'
    grind [insert]

lemma sorted_insert (h : Sorted ms) : Sorted (insert key value ms) := by
  induction ms with
  | nil => simp [insert, Sorted]
  | cons m ms ih =>
    obtain ⟨k, v⟩ := m
    obtain ⟨hk, hms⟩ := List.pairwise_cons.mp h
    rw [insert]
    split_ifs with heq hlt
    · subst heq
      exact List.pairwise_cons.mpr ⟨hk, hms⟩
    · refine List.pairwise_cons.mpr ⟨?_, h⟩
      rintro m' (_ | ⟨_, hm⟩)
      · exact hlt
      · exact String.lt_trans hlt (hk m' hm)
    · have hkey : k < key :=
        String.not_le.mp fun hle => heq (String.le_antisymm hle (String.not_lt.mp hlt))
      refine List.pairwise_cons.mpr ⟨fun m' hm => ?_, ih hms⟩
      rcases mem_insert hm with rfl | hm
      · exact hkey
      · exact hk m' hm

lemma sorted_ofMembers (ms : List (String × Json)) : Sorted (ofMembers ms) :=
  List.foldlRecOn ms _ List.Pairwise.nil fun _ h _ _ => sorted_insert h

lemma mem_ofMembers (h : m ∈ ofMembers ms) : m ∈ ms := by
  refine List.foldlRecOn (motive := fun acc => m ∈ acc → m ∈ ms) ms _ (by simp) ?_ h
  intro acc ih m' hm' h
  rcases mem_insert h with rfl | h
  · exact hm'
  · exact ih h

lemma insert_last (h : ∀ m ∈ ms, m.1 < key) : insert key value ms = ms ++ [(key, value)] := by
  induction ms with
  | nil => rfl
  | cons m ms ih =>
    obtain ⟨k, v⟩ := m
    obtain ⟨hk, hms⟩ := List.forall_mem_cons.mp h
    have hne : key ≠ k := fun heq => String.lt_irrefl _ (heq ▸ hk)
    have hnlt : ¬ key < k := String.lt_asymm hk
    rw [insert, if_neg hne, if_neg hnlt, ih hms, List.cons_append]

lemma ofMembers_eq_self (h : Sorted ms) : ofMembers ms = ms := by
  induction ms using List.reverseRecOn with
  | nil => rfl
  | append_singleton ms m ih =>
    obtain ⟨hms, -, hlast⟩ := List.pairwise_append.mp h
    have hm : ∀ m' ∈ ms, m'.1 < m.1 := fun m' hm' => hlast m' hm' m (by simp)
    rw [ofMembers, List.foldl_append, ← ofMembers, ih hms]
    exact insert_last hm

lemma insert_mapMembers (f : Float → Float) :
    insert key (value.mapFloats f) (mapMembers f ms) = mapMembers f (insert key value ms) := by
  induction ms with
  | nil => rfl
  | cons m ms ih =>
    obtain ⟨k, v⟩ := m
    rw [mapMembers, insert, insert, ih]
    split_ifs <;> rfl

lemma ofMembers_mapMembers (f : Float → Float) (ms : List (String × Json)) :
    ofMembers (mapMembers f ms) = mapMembers f (ofMembers ms) := by
  suffices h : ∀ acc, (mapMembers f ms).foldl (fun ms m => insert m.1 m.2 ms) (mapMembers f acc) =
      mapMembers f (ms.foldl (fun ms m => insert m.1 m.2 ms) acc) from h []
  induction ms with
  | nil => exact fun acc => rfl
  | cons m ms ih =>
    intro acc
    rw [mapMembers, List.foldl_cons, insert_mapMembers, ih]
    rfl

end Members

def Origin.Allows (n : Nat) : Origin → Prop
  | .text levels => n ≤ levels
  | .value => True

lemma Origin.Allows.enter {o : Origin} {n : Nat} (h : o.Allows (n + 1)) :
    ∃ inner, o.enter = .ok inner ∧ inner.Allows n := by
  cases o with
  | value => exact ⟨.value, rfl, trivial⟩
  | text levels =>
    obtain ⟨levels', rfl⟩ := Nat.exists_eq_add_of_le' h
    exact ⟨.text (levels' + n), rfl, Nat.le_add_left n levels'⟩

namespace Reader

variable {α β δ : Type} {o inner : Origin}

lemma bind_eq_ok {x : Except Mismatch α} {f : α → Except Mismatch β} {b : β} :
    x >>= f = .ok b ↔ ∃ a, x = .ok a ∧ f a = .ok b := by
  cases x <;> simp [bind, Except.bind]

lemma bind_pure_eq_ok {x : Except Mismatch α} {f : α → β} {b : β} :
    (do return f (← x)) = Except.ok b ↔ ∃ a, x = .ok a ∧ f a = b := by
  cases x <;> simp [bind, Except.bind, pure, Except.pure]

@[simp] lemma ok_bind (a : α) (f : α → Except Mismatch β) :
    (.ok a : Except Mismatch α) >>= f = f a := rfl

def ReadsBack (read : Reader α) (write : α → Json) (o : Origin) (a : α) : Prop :=
  read o (Document.ofJson (write a)) = .ok a

section Parts

variable {read : Reader α} {write : α → Json}

lemma readsBack_text (s : String) : text.ReadsBack .text o s := rfl

lemma readsBack_natural (n : UInt64) : natural.ReadsBack ofNat o n := rfl

lemma readsBack_optional (s : Option String) :
    (optional text).ReadsBack (ofOption .text) o s := by
  cases s <;> rfl

lemma readsBack_choice {find : String → Option α} {name : α → String} {a : α}
    (h : find (name a) = some a) : (choice find).ReadsBack (fun a => .text (name a)) o a := by
  simp [ReadsBack, choice, tagged, Document.ofJson, h]

lemma tagged_ofJson {find : String → Option β} {bare : β → Except Mismatch α}
    {content : β → Reader α} {name : String} {b : β} {v : Json} {a : α}
    (ho : o.enter = .ok inner) (hf : find name = some b)
    (ha : content b inner (Document.ofJson v) = .ok a) :
    tagged find bare content o (Document.ofJson (.object [(name, v)])) = .ok a := by
  cases o <;>
    simp [Document.ofJson, Document.ofMembers, tagged, ho, hf, ha] <;> rfl

lemma items_ofItems {as : List α} (h : ∀ a ∈ as, read.ReadsBack write o a) :
    items read o (Document.ofItems (as.map write)) = .ok as := by
  induction as with
  | nil => rfl
  | cons a as ih =>
    obtain ⟨ha, has⟩ := List.forall_mem_cons.mp h
    exact bind_eq_ok.mpr ⟨a, ha, bind_eq_ok.mpr ⟨as, ih has, rfl⟩⟩

lemma readsBack_list {as : List α} (ho : o.enter = .ok inner)
    (h : ∀ a ∈ as, read.ReadsBack write inner a) :
    (list read).ReadsBack (fun as => .array (as.map write)) o as := by
  simp only [ReadsBack, Document.ofJson, list]
  exact bind_eq_ok.mpr ⟨inner, ho, bind_eq_ok.mpr ⟨as, items_ofItems h, rfl⟩⟩

lemma exists_of_items {ds : List Document} {as : List α} (h : items read o ds = .ok as) :
    ∀ a ∈ as, ∃ d ∈ ds, read o d = .ok a := by
  induction ds generalizing as with
  | nil =>
    obtain rfl := Except.ok.inj h
    simp
  | cons d ds ih =>
    obtain ⟨a, ha, h⟩ := bind_eq_ok.mp h
    obtain ⟨as, has, rfl⟩ := bind_pure_eq_ok.mp h
    refine List.forall_mem_cons.mpr ⟨⟨d, List.mem_cons_self, ha⟩, fun a ha => ?_⟩
    obtain ⟨d', hd', ha'⟩ := ih has a ha
    exact ⟨d', List.mem_cons_of_mem d hd', ha'⟩

lemma exists_of_list {d : Document} {as : List α} (ho : o.enter = .ok inner)
    (h : list read o d = .ok as) : ∀ a ∈ as, ∃ part ∈ d.parts, read inner part = .ok a := by
  cases d with
  | array ds ending =>
    rw [list, ho, ok_bind] at h
    obtain ⟨as', has, h⟩ := bind_eq_ok.mp h
    obtain ⟨-, -, rfl⟩ := bind_pure_eq_ok.mp h
    exact exists_of_items has
  | _ => cases h

lemma fill_ofJson {name : String} {a : α} (h : read.ReadsBack write o a) :
    fill name read o (Document.ofJson (write a)) none = .ok (some a) :=
  congrArg (Except.map some) h

lemma exists_of_fill {name : String} {d : Document} {slot slot' : Option α}
    (h : fill name read o d slot = .ok slot') : ∃ a, slot' = some a ∧ read o d = .ok a := by
  rw [fill] at h
  split_ifs at h
  cases ha : read o d with
  | error err => simp [ha, Except.map] at h
  | ok a => exact ⟨a, by simpa [ha, Except.map] using h.symm, rfl⟩

end Parts

lemma jsonItems_eq_items (o : Origin) (ds : List Document) : jsonItems o ds = items json o ds := by
  induction ds with
  | nil => rfl
  | cons d ds ih => rw [jsonItems, items, ih]

lemma jsonMembers_ofMembers {ms : List (String × Json)}
    (h : ∀ m ∈ ms, json.ReadsBack id o m.2) :
    jsonMembers o (Document.ofMembers ms) = .ok ms := by
  induction ms with
  | nil => rfl
  | cons m ms ih =>
    obtain ⟨hm, hms⟩ := List.forall_mem_cons.mp h
    exact bind_eq_ok.mpr ⟨m.2, hm, bind_eq_ok.mpr ⟨ms, ih hms, rfl⟩⟩

lemma readsBack_array {vs : List Json} (ho : o.enter = .ok inner)
    (h : ∀ v ∈ vs, json.ReadsBack id inner v) : json.ReadsBack id o (.array vs) := by
  have hvs : jsonItems inner (Document.ofItems vs) = .ok vs := by
    simpa [jsonItems_eq_items] using items_ofItems h
  simp only [ReadsBack, id, Document.ofJson, json]
  exact bind_eq_ok.mpr ⟨inner, ho, bind_eq_ok.mpr ⟨vs, hvs, rfl⟩⟩

lemma ofText_eq_ok_iff {read : Reader α} {s : String} {a : α} :
    read.ofText s = .ok a ↔
      ∃ d, Document.ofChars s.toList = (d, true) ∧ read .whole d = .ok a := by
  rw [ofText]
  obtain ⟨d, alone⟩ := Document.ofChars s.toList
  cases alone <;> cases hd : read .whole d <;> simp [hd, bind, Except.bind]

@[simp] lemma gather_nil (o : Origin) : o.gather [] = [] := by
  cases o <;> rfl

lemma mem_gather {m : String × Json} {ms : List (String × Json)} (h : m ∈ o.gather ms) :
    m ∈ ms := by
  cases o with
  | text _ => exact mem_ofMembers h
  | value => exact h

lemma gather_gather (ms : List (String × Json)) : o.gather (o.gather ms) = o.gather ms := by
  cases o with
  | text _ => exact ofMembers_eq_self (sorted_ofMembers ms)
  | value => rfl

lemma readsBack_gather {ms : List (String × Json)} (ho : o.enter = .ok inner)
    (h : ∀ m ∈ ms, json.ReadsBack id inner m.2) :
    members.ReadsBack .object o (inner.gather ms) := by
  have hms := jsonMembers_ofMembers fun m hm => h m (mem_gather (o := inner) hm)
  simp only [ReadsBack, Document.ofJson, members]
  exact bind_eq_ok.mpr ⟨inner, ho,
    bind_eq_ok.mpr ⟨_, hms, congrArg Except.ok (gather_gather ms)⟩⟩

lemma readsBack_members_value {ms : List (String × Json)}
    (h : ∀ m ∈ ms, json.ReadsBack id .value m.2) : members.ReadsBack .object .value ms :=
  readsBack_gather (o := .value) rfl h

lemma readsBack_object {ms : List (String × Json)} (h : members.ReadsBack .object o ms) :
    json.ReadsBack id o (.object ms) := by
  simp only [ReadsBack, Document.ofJson, members] at h
  obtain ⟨inner, ho, h⟩ := bind_eq_ok.mp h
  obtain ⟨vs, hvs, h⟩ := bind_eq_ok.mp h
  simp only [ReadsBack, id, Document.ofJson, json]
  exact bind_eq_ok.mpr ⟨inner, ho, bind_eq_ok.mpr ⟨vs, hvs, congrArg (Except.map Json.object) h⟩⟩

-- A value that has been read before may nest without limit and its members stay as they are.
mutual

lemma readsBack_value : ∀ v, json.ReadsBack id .value v
  | .null => rfl
  | .bool _ => rfl
  | .number _ => rfl
  | .text _ => rfl
  | .array vs => readsBack_array rfl (readsBack_values vs)
  | .object ms => readsBack_object (readsBack_members_value (readsBack_valueMembers ms))

lemma readsBack_values : ∀ vs : List Json, ∀ v ∈ vs, json.ReadsBack id .value v
  | [] => by simp
  | v :: vs => List.forall_mem_cons.mpr ⟨readsBack_value v, readsBack_values vs⟩

lemma readsBack_valueMembers :
    ∀ ms : List (String × Json), ∀ m ∈ ms, json.ReadsBack id .value m.2
  | [] => by simp
  | (_, v) :: ms => List.forall_mem_cons.mpr ⟨readsBack_value v, readsBack_valueMembers ms⟩

end

lemma readsBack_gather_mapMembers {f : Float → Float} {ms : List (String × Json)}
    (ho : o.enter = .ok inner) (h : ∀ m ∈ mapMembers f ms, json.ReadsBack id inner m.2) :
    members.ReadsBack .object o (mapMembers f (inner.gather ms)) := by
  have hgather : mapMembers f (inner.gather ms) = inner.gather (mapMembers f ms) := by
    cases inner with
    | text _ => exact (ofMembers_mapMembers f ms).symm
    | value => rfl
  exact hgather ▸ readsBack_gather ho h

section MapFloats

variable {f : Float → Float}

-- In a text the value takes no more levels than its document, and its members are in order.
mutual

lemma readsBack_of_json {v : Json} : ∀ {o d}, json o d = .ok v → json.ReadsBack id o (v.mapFloats f)
  | _, .null, h | _, .bool _, h | _, .number (some _), h | _, .text (some _), h => by
    obtain rfl := Except.ok.inj h
    rfl
  | o, .array ds ending, h => by
    obtain ⟨inner, ho, h⟩ := bind_eq_ok.mp h
    obtain ⟨vs, hvs, h⟩ := bind_eq_ok.mp h
    obtain ⟨-, -, rfl⟩ := bind_pure_eq_ok.mp h
    exact readsBack_array ho (readsBack_of_jsonItems hvs)
  | o, .object ms ending, h => by
    obtain ⟨inner, ho, h⟩ := bind_eq_ok.mp h
    obtain ⟨vs, hvs, h⟩ := bind_eq_ok.mp h
    obtain ⟨-, -, rfl⟩ := bind_pure_eq_ok.mp h
    exact readsBack_object (readsBack_gather_mapMembers ho (readsBack_of_jsonMembers hvs))

lemma readsBack_of_jsonItems {vs : List Json} :
    ∀ {o ds}, jsonItems o ds = .ok vs → ∀ v ∈ mapItems f vs, json.ReadsBack id o v
  | _, [], h => by
    obtain rfl := Except.ok.inj h
    simp [mapItems]
  | _, d :: ds, h => by
    obtain ⟨v, hv, h⟩ := bind_eq_ok.mp h
    obtain ⟨vs, hvs, rfl⟩ := bind_pure_eq_ok.mp h
    exact List.forall_mem_cons.mpr ⟨readsBack_of_json hv, readsBack_of_jsonItems hvs⟩

lemma readsBack_of_jsonMembers {vs : List (String × Json)} :
    ∀ {o ms}, jsonMembers o ms = .ok vs → ∀ m ∈ mapMembers f vs, json.ReadsBack id o m.2
  | _, [], h => by
    obtain rfl := Except.ok.inj h
    simp [mapMembers]
  | _, (some _, d) :: ms, h => by
    obtain ⟨v, hv, h⟩ := bind_eq_ok.mp h
    obtain ⟨vs, hvs, rfl⟩ := bind_pure_eq_ok.mp h
    exact List.forall_mem_cons.mpr ⟨readsBack_of_json hv, readsBack_of_jsonMembers hvs⟩

end

lemma readsBack_of_members {d : Document} {ms : List (String × Json)} (h : members o d = .ok ms) :
    members.ReadsBack .object o (mapMembers f ms) := by
  cases d with
  | object ds ending =>
    obtain ⟨inner, ho, h⟩ := bind_eq_ok.mp h
    obtain ⟨vs, hvs, h⟩ := bind_eq_ok.mp h
    obtain ⟨-, -, rfl⟩ := bind_pure_eq_ok.mp h
    exact readsBack_gather_mapMembers ho (readsBack_of_jsonMembers hvs)
  | _ => cases h

end MapFloats

lemma memberFloats_gather (o : Origin) (ms : List (String × Json)) :
    memberFloats (o.gather ms) ⊆ memberFloats ms := by
  intro x hx
  obtain ⟨m, hm, hx⟩ := mem_memberFloats.mp hx
  exact mem_memberFloats.mpr ⟨m, mem_gather hm, hx⟩

-- No float of a value is new.
mutual

lemma floats_of_json {v : Json} : ∀ {o d}, json o d = .ok v → v.floats ⊆ d.floats
  | _, .null, h | _, .bool _, h | _, .number (some _), h | _, .text (some _), h => by
    obtain rfl := Except.ok.inj h
    exact List.Subset.refl _
  | _, .array ds ending, h => by
    obtain ⟨inner, -, h⟩ := bind_eq_ok.mp h
    obtain ⟨vs, hvs, h⟩ := bind_eq_ok.mp h
    obtain ⟨-, -, rfl⟩ := bind_pure_eq_ok.mp h
    exact floats_of_jsonItems hvs
  | _, .object ms ending, h => by
    obtain ⟨inner, -, h⟩ := bind_eq_ok.mp h
    obtain ⟨vs, hvs, h⟩ := bind_eq_ok.mp h
    obtain ⟨-, -, rfl⟩ := bind_pure_eq_ok.mp h
    exact List.Subset.trans (memberFloats_gather inner vs) (floats_of_jsonMembers hvs)

lemma floats_of_jsonItems {vs : List Json} :
    ∀ {o ds}, jsonItems o ds = .ok vs → itemFloats vs ⊆ Document.itemFloats ds
  | _, [], h => by
    obtain rfl := Except.ok.inj h
    exact List.Subset.refl _
  | _, d :: ds, h => by
    obtain ⟨v, hv, h⟩ := bind_eq_ok.mp h
    obtain ⟨vs, hvs, rfl⟩ := bind_pure_eq_ok.mp h
    exact List.append_subset.mpr ⟨List.subset_append_of_subset_left _ (floats_of_json hv),
      List.subset_append_of_subset_right _ (floats_of_jsonItems hvs)⟩

lemma floats_of_jsonMembers {vs : List (String × Json)} :
    ∀ {o ms}, jsonMembers o ms = .ok vs → memberFloats vs ⊆ Document.memberFloats ms
  | _, [], h => by
    obtain rfl := Except.ok.inj h
    exact List.Subset.refl _
  | _, (some _, d) :: ms, h => by
    obtain ⟨v, hv, h⟩ := bind_eq_ok.mp h
    obtain ⟨vs, hvs, rfl⟩ := bind_pure_eq_ok.mp h
    exact List.append_subset.mpr ⟨List.subset_append_of_subset_left _ (floats_of_json hv),
      List.subset_append_of_subset_right _ (floats_of_jsonMembers hvs)⟩

end

lemma floats_of_members {d : Document} {ms : List (String × Json)} (h : members o d = .ok ms) :
    memberFloats ms ⊆ d.floats := by
  cases d with
  | object ds ending =>
    obtain ⟨inner, ho, h⟩ := bind_eq_ok.mp h
    obtain ⟨vs, hvs, h⟩ := bind_eq_ok.mp h
    obtain ⟨-, -, rfl⟩ := bind_pure_eq_ok.mp h
    exact List.Subset.trans (memberFloats_gather inner vs) (floats_of_jsonMembers hvs)
  | _ => cases h

section Records

variable {r : Record δ α} {P : δ → Prop}

lemma record_ofMembers (draft : δ) {ms : List (String × Json)} {a : α} (ho : o.enter = .ok inner)
    (h : putMembers r inner (Document.ofMembers ms) r.blank = .ok draft)
    (ha : r.finish .missingField draft = .ok a) :
    record r o (Document.ofJson (.object ms)) = .ok a := by
  simp only [Document.ofJson, record]
  exact bind_eq_ok.mpr ⟨inner, ho, bind_eq_ok.mpr ⟨draft, h, ha⟩⟩

lemma putMembers_inv {ms : List (Option String × Document)} {draft draft' : δ}
    (hput : ∀ m ∈ ms, ∀ k draft draft', P draft → r.put k o m.2 draft = .ok draft' → P draft')
    (hd : P draft) (h : putMembers r o ms draft = .ok draft') : P draft' := by
  induction ms generalizing draft with
  | nil =>
    obtain rfl := Except.ok.inj h
    exact hd
  | cons m ms ih =>
    obtain ⟨hm, hms⟩ := List.forall_mem_cons.mp hput
    obtain ⟨_ | k, d⟩ := m
    · cases h
    · rw [putMembers] at h
      split_ifs at h
      · obtain ⟨draft₁, h₁, h⟩ := bind_eq_ok.mp h
        exact ih hms (hm k draft draft₁ hd h₁) h
      · exact ih hms hd h

lemma putItems_inv {fs : List String} {ds : List Document} {draft draft' : δ}
    (hput : ∀ d ∈ ds, ∀ k draft draft', P draft → r.put k o d draft = .ok draft' → P draft')
    (hd : P draft) (h : putItems r o fs ds draft = .ok draft') : P draft' := by
  induction fs generalizing ds draft with
  | nil =>
    obtain rfl := Except.ok.inj h
    exact hd
  | cons f fs ih =>
    cases ds with
    | nil =>
      obtain rfl := Except.ok.inj h
      exact hd
    | cons d ds =>
      obtain ⟨hput, hputs⟩ := List.forall_mem_cons.mp hput
      obtain ⟨draft₁, h₁, h⟩ := bind_eq_ok.mp h
      exact ih hputs (hput f draft draft₁ hd h₁) h

lemma exists_of_record {d : Document} {a : α} (ho : o.enter = .ok inner) (hblank : P r.blank)
    (hput : ∀ part ∈ d.parts, ∀ k draft draft',
      P draft → r.put k inner part draft = .ok draft' → P draft')
    (h : record r o d = .ok a) : ∃ absent draft, P draft ∧ r.finish absent draft = .ok a := by
  cases d with
  | object ms ending =>
    rw [record, ho, ok_bind] at h
    obtain ⟨draft, hdraft, h⟩ := bind_eq_ok.mp h
    obtain ⟨-, -, h⟩ := bind_eq_ok.mp h
    exact ⟨_, draft, putMembers_inv (List.forall_mem_map.mp hput) hblank hdraft, h⟩
  | array ds ending =>
    rw [record, ho, ok_bind] at h
    obtain ⟨draft, hdraft, h⟩ := bind_eq_ok.mp h
    dsimp only at h
    split_ifs at h
    · cases h
    · obtain ⟨-, -, h⟩ := bind_eq_ok.mp h
      exact ⟨_, draft, putItems_inv hput hblank hdraft, h⟩
  | _ => cases h

/-- A field that is set in the end was read from a part of the document. -/
lemma exists_of_record_field {d : Document} {a : α} {field : δ → Option β} {read : Reader β}
    (ho : o.enter = .ok inner) (h : record r o d = .ok a)
    (hput : ∀ k part draft draft', r.put k inner part draft = .ok draft' →
      field draft' = field draft ∨ ∃ b, field draft' = some b ∧ read inner part = .ok b)
    (hblank : field r.blank = none) :
    ∃ absent draft, r.finish absent draft = .ok a ∧
      ∀ b, field draft = some b → ∃ part ∈ d.parts, read inner part = .ok b := by
  let Found (draft : δ) : Prop :=
    ∀ b, field draft = some b → ∃ part ∈ d.parts, read inner part = .ok b
  have hfound : ∀ part ∈ d.parts, ∀ k draft draft',
      Found draft → r.put k inner part draft = .ok draft' → Found draft' := by
    intro part hpart k draft draft' hdraft h b hb
    rcases hput k part draft draft' h with hkept | ⟨b', hb', hread⟩
    · exact hdraft b (hkept ▸ hb)
    · obtain rfl := Option.some.inj (hb'.symm.trans hb)
      exact ⟨part, hpart, hread⟩
  have hnone : Found r.blank := fun b hb => nomatch hblank.symm.trans hb
  obtain ⟨absent, draft, hdraft, ha⟩ := exists_of_record ho hnone hfound h
  exact ⟨absent, draft, ha, hdraft⟩

end Records

end Reader

end JobDispatch.Json
