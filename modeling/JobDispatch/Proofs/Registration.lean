import JobDispatch.Handler.Registry
import Mathlib

namespace JobDispatch

variable {X : Extras}

def JobType.Before (i j : JobType) : Prop :=
  i.ctorIdx < j.ctorIdx

instance : DecidableRel JobType.Before :=
  fun i j => inferInstanceAs (Decidable (i.ctorIdx < j.ctorIdx))

lemma JobType.pairwise_all : JobType.all.Pairwise JobType.Before := by
  decide

lemma JobType.mem_all (j : JobType) : j ∈ JobType.all := by
  cases j <;> decide

def Handler.LeadsIn (h : Handler X) (hs : List (Handler X)) : Prop :=
  ∃ before after, hs = before ++ h :: after ∧ h.triggers ≠ [] ∧
    ∀ h' ∈ before, h'.job = h.job → h'.triggers = []

namespace Registry

variable {r : Registry X} {h h' : Handler X} {hs hs' : List (Handler X)} {j : JobType}

def having (r : Registry X) (h : Handler X) : Registry X := (r.offer h).2

def offered (hs : List (Handler X)) : Registry X := hs.foldl having empty

def Declares (r : Registry X) (topic : String) : Prop :=
  ∃ j h, r.handler? j = some h ∧ h.topic = some topic

lemma consumes_iff {topic : String} : r.consumes topic = true ↔ r.Declares topic := by
  simp only [consumes, topics, handlers, List.any_eq_true, List.mem_filterMap, beq_iff_eq]
  constructor
  · rintro ⟨_, ⟨h, ⟨j, -, hj⟩, ht⟩, rfl⟩
    exact ⟨j, h, hj, ht⟩
  · rintro ⟨j, h, hj, ht⟩
    exact ⟨topic, ⟨h, ⟨j, j.mem_all, hj⟩, ht⟩, rfl⟩

lemma offer_eq_noTriggers_iff :
    (r.offer h).1 = .error (.noTriggers j) ↔ h.triggers = [] ∧ j = h.job := by
  rw [offer]
  split_ifs with ht hs
  · simp [List.isEmpty_iff.mp ht, eq_comm]
  · simp [List.isEmpty_iff.not.mp ht]
  · simp [List.isEmpty_iff.not.mp ht]

lemma offer_eq_duplicateHandler_iff :
    (r.offer h).1 = .error (.duplicateHandler j) ↔
      h.triggers ≠ [] ∧ (r.handler? h.job).isSome ∧ j = h.job := by
  rw [offer]
  split_ifs with ht hs
  · simp [List.isEmpty_iff.mp ht]
  · simp [List.isEmpty_iff.not.mp ht, hs, eq_comm]
  · simp [hs]

lemma having_of_refused {e : RegistryError} (h' : (r.offer h).1 = .error e) : r.having h = r := by
  rw [having]
  rw [offer] at h' ⊢
  split_ifs at h' ⊢
  · rfl
  · rfl

lemma register_eq_error_iff {e : RegistryError} :
    r.register h = .error e ↔ (r.offer h).1 = .error e := by
  rw [register]
  cases (r.offer h).1 <;> simp [Except.map]

lemma register_eq_ok_iff {r' : Registry X} : r.register h = .ok r' ↔ r.offer h = (.ok (), r') := by
  rw [register, Prod.ext_iff]
  cases (r.offer h).1 <;> simp [Except.map]

lemma handler?_having (r : Registry X) (h : Handler X) (j : JobType) :
    (r.having h).handler? j =
      (r.handler? j).or (if h.job = j ∧ h.triggers ≠ [] then some h else none) := by
  rw [having, offer]
  by_cases ht : h.triggers = []
  · simp [ht]
  · by_cases hj : h.job = j
    · subst hj
      cases hr : r.handler? h.job <;> simp [ht, hr, insert]
    · cases hr : r.handler? h.job <;> simp [ht, hj, insert, Ne.symm hj]

lemma handler?_foldl_having (r : Registry X) (hs : List (Handler X)) (j : JobType) :
    (hs.foldl having r).handler? j =
      (r.handler? j).or (hs.find? fun h => h.job = j ∧ h.triggers ≠ []) := by
  induction hs generalizing r with
  | nil => simp
  | cons h hs ih =>
    rw [List.foldl_cons, ih, handler?_having, Option.or_assoc, List.find?_cons]
    by_cases hj : h.job = j ∧ h.triggers ≠ [] <;> simp [hj]

lemma handler?_offered_iff :
    (offered hs).handler? j = some h ↔ h.job = j ∧ h.LeadsIn hs := by
  rw [offered, handler?_foldl_having, empty, Option.none_or, List.find?_eq_some_iff_append]
  constructor
  · rintro ⟨hh, before, after, rfl, hbefore⟩
    obtain ⟨rfl, ht⟩ : h.job = j ∧ h.triggers ≠ [] := by simpa using hh
    exact ⟨rfl, before, after, rfl, ht, by simpa [imp_iff_not_or] using hbefore⟩
  · rintro ⟨rfl, before, after, rfl, ht, hbefore⟩
    exact ⟨by simpa using ht, before, after, rfl, by simpa [imp_iff_not_or] using hbefore⟩

lemma handler?_offered (hj : (offered hs).handler? j = some h) : h ∈ hs ∧ h.job = j := by
  obtain ⟨rfl, before, after, rfl, -⟩ := handler?_offered_iff.mp hj
  exact ⟨by simp, rfl⟩

lemma isSome_handler?_offered :
    ((offered hs).handler? j).isSome ↔ ∃ h ∈ hs, h.job = j ∧ h.triggers ≠ [] := by
  rw [offered, handler?_foldl_having, empty, Option.none_or, List.find?_isSome]
  simp

lemma having_comm (hj : h.job ≠ h'.job) : (r.having h).having h' = (r.having h').having h := by
  have heq (j : JobType) :
      ((r.having h).having h').handler? j = ((r.having h').having h).handler? j := by
    simp only [handler?_having, Option.or_assoc]
    by_cases hh : h.job = j
    · simp [hh ▸ hj.symm]
    · simp [hh]
  exact congrArg mk (funext heq)

lemma offered_perm (hp : hs.Perm hs') (hn : (hs.map (·.job)).Nodup) : offered hs' = offered hs := by
  refine (hp.foldl_eq' (fun h hh h' hh' r => ?_) empty).symm
  by_cases hj : h.job = h'.job
  · rw [List.inj_on_of_nodup_map hn hh hh' hj]
  · exact having_comm hj

structure Holds (r : Registry X) (stored : List (Handler X)) : Prop where
  ordered : (stored.map (·.job)).Pairwise JobType.Before
  handler : ∀ j h, r.handler? j = some h ↔ h ∈ stored ∧ h.job = j
  size : r.size = stored.length
  isEmpty : r.isEmpty = stored.isEmpty
  topics : r.topics = stored.filterMap (·.topic)
  consumes : ∀ topic, r.consumes topic = true ↔ ∃ h ∈ stored, h.topic = some topic
  inspect : r.inspect = "HandlerRegistry \x7b job_types: [" ++
    String.intercalate ", " (stored.map fun h => h.job.label) ++ "] \x7d"
  unserved : r.unserved.Pairwise JobType.Before ∧
    ∀ j, j ∈ r.unserved ↔ ∀ h ∈ stored, h.job ≠ j
  count : r.size + r.unserved.length = JobType.all.length

lemma served_eq (hr : ∀ j h, r.handler? j = some h → h.job = j) :
    r.served = r.handlers.map (·.job) := by
  rw [served, handlers, List.map_filterMap]
  induction JobType.all with
  | nil => rfl
  | cons j js ih =>
    cases hj : r.handler? j with
    | none => simpa [hj] using ih
    | some h => simpa [hj, hr j h hj] using ih

lemma holds_handlers (hr : ∀ j h, r.handler? j = some h → h.job = j) : r.Holds r.handlers := by
  have hserved := served_eq hr
  have hmem (j : JobType) (h : Handler X) :
      r.handler? j = some h ↔ h ∈ r.handlers ∧ h.job = j := by
    simp only [handlers, List.mem_filterMap]
    constructor
    · exact fun hj => ⟨⟨j, j.mem_all, hj⟩, hr j h hj⟩
    · rintro ⟨⟨i, -, hi⟩, rfl⟩
      rwa [hr i h hi]
  refine ⟨?_, hmem, ?_, ?_, rfl, fun topic => ?_, ?_, ⟨?_, fun j => ?_⟩, ?_⟩
  · rw [← hserved]
    exact JobType.pairwise_all.filter _
  · rw [size, hserved, List.length_map]
  · rw [isEmpty, hserved, List.isEmpty_map]
  · simp only [consumes_iff, Declares, hmem]
    grind
  · unfold inspect
    rw [hserved, List.map_map]
    rfl
  · exact JobType.pairwise_all.filter _
  · simp only [unserved, List.mem_filter, j.mem_all, true_and, Bool.not_eq_true',
      Option.isSome_eq_false_iff, Option.isNone_iff_eq_none, Option.eq_none_iff_forall_ne_some,
      ne_eq, hmem, not_and]
  · exact (JobType.all.length_eq_length_filter_add _).symm

/-- A registry holds the handlers that lead in their job type, so that the order of the offers does
not matter where no two are for the same one. -/
theorem offered_holds (hs : List (Handler X)) :
    (∀ h, (∀ j, ((offered hs).offer h).1 = .error (.noTriggers j) ↔
        h.triggers = [] ∧ j = h.job) ∧
      (∀ j, ((offered hs).offer h).1 = .error (.duplicateHandler j) ↔
        h.triggers ≠ [] ∧ (∃ h' ∈ hs, h'.job = h.job ∧ h'.triggers ≠ []) ∧ j = h.job) ∧
      (∀ e, ((offered hs).offer h).1 = .error e → ((offered hs).offer h).2 = offered hs) ∧
      offered (hs ++ [h]) = ((offered hs).offer h).2 ∧
      (∀ e, (offered hs).register h = .error e ↔ ((offered hs).offer h).1 = .error e) ∧
      ∀ r, (offered hs).register h = .ok r ↔ (offered hs).offer h = (.ok (), r)) ∧
    (∃ stored, (∀ h, h ∈ stored ↔ h.LeadsIn hs) ∧ (offered hs).Holds stored) ∧
    ∀ hs', hs.Perm hs' → (hs.map (·.job)).Nodup → offered hs' = offered hs := by
  have hholds : (offered hs).Holds (offered hs).handlers :=
    holds_handlers fun j h hj => (handler?_offered hj).2
  have hstored (h : Handler X) : h ∈ (offered hs).handlers ↔ h.LeadsIn hs := by
    have hlookup := hholds.handler h.job h
    rw [handler?_offered_iff] at hlookup
    simpa using hlookup.symm
  refine ⟨fun h => ⟨fun j => offer_eq_noTriggers_iff, fun j => ?_, fun e => having_of_refused, ?_,
    fun e => register_eq_error_iff, fun r => register_eq_ok_iff⟩, ⟨_, hstored, hholds⟩,
    fun hs' => offered_perm⟩
  · rw [offer_eq_duplicateHandler_iff, isSome_handler?_offered]
  · rw [offered, List.foldl_concat]
    rfl

theorem offered_holds_reversed :
    let hs : List (Handler Extras.none) := [.coprBuild, .syncFromDownstream]
    let silent : Handler Extras.none := { Handler.coprBuild with job := .build, triggers := [] }
    hs.Perm hs.reverse ∧ (hs.map (·.job)).Nodup ∧ offered hs.reverse = offered hs ∧
      ((offered hs).offer silent).1 = .error (.noTriggers .build) ∧
      ((offered hs).offer silent).2 = offered hs ∧
      ((offered hs).offer .coprBuild).1 = .error (.duplicateHandler .coprBuild) ∧
      ((offered hs).offer .coprBuild).2 = offered hs ∧
      ∃ stored, .coprBuild ∈ stored ∧ (offered hs).Holds stored := by
  intro hs silent
  obtain ⟨hregister, ⟨stored, hstored, hholds⟩, hperm⟩ := offered_holds hs
  obtain ⟨hno, -, hsame, -⟩ := hregister silent
  obtain ⟨-, hduplicate, hsame', -⟩ := hregister .coprBuild
  have hp : hs.Perm hs.reverse := hs.reverse_perm.symm
  have hn : (hs.map (·.job)).Nodup := by decide
  have hsilent := (hno .build).mpr ⟨rfl, rfl⟩
  have htriggers : (Handler.coprBuild (X := Extras.none)).triggers ≠ [] := by
    simp [Handler.coprBuild]
  have hrefused := (hduplicate .coprBuild).mpr
    ⟨htriggers, ⟨_, List.mem_cons_self, rfl, htriggers⟩, rfl⟩
  have hleads := (hstored .coprBuild).mpr ⟨[], [.syncFromDownstream], rfl, htriggers, by simp⟩
  exact ⟨hp, hn, hperm _ hp hn, hsilent, hsame _ hsilent, hrefused, hsame' _ hrefused, stored,
    hleads, hholds⟩

end Registry

end JobDispatch
