import JobDispatch.Proofs.Path
import Mathlib

namespace JobDispatch

variable {σ α φ : Type}

def stateAfter (m : StateM σ α) (n : ℕ) (s : σ) : σ :=
  (fun s => (m s).2)^[n] s

def answerAfter (m : StateM σ α) (n : ℕ) (s : σ) : α :=
  (m (stateAfter m n s)).1

lemma stateAfter_succ (m : StateM σ α) (n : ℕ) (s : σ) :
    stateAfter m (n + 1) s = (m (stateAfter m n s)).2 :=
  Function.iterate_succ_apply' ..

lemma stateAfter_add (m : StateM σ α) (k n : ℕ) (s : σ) :
    stateAfter m (k + n) s = stateAfter m k (stateAfter m n s) :=
  Function.iterate_add_apply ..

lemma stateAfter_of_fixed {m : StateM σ α} {s : σ} (h : (m s).2 = s) (n : ℕ) :
    stateAfter m n s = s :=
  Function.iterate_fixed h n

namespace Link

variable {l : Link (StateM σ) φ} {connect : StateM σ (Logged (Except ForgeError φ))} {s : σ}
  {n k : ℕ} {f : φ}

def outcome (connect : StateM σ (Logged (Except ForgeError φ))) (s : σ) (n : ℕ) :
    Except ForgeError φ :=
  (answerAfter connect n s).value

def Fails (connect : StateM σ (Logged (Except ForgeError φ))) (s : σ) (n : ℕ) : Prop :=
  ∀ i < n, ∃ err, outcome connect s i = .error err

lemma Fails.mono (h : Fails connect s n) (hk : k ≤ n) : Fails connect s k :=
  fun i hi => h i (hi.trans_le hk)

lemma exists_first_success (h : ¬ Fails connect s k) :
    ∃ n < k, ∃ f, Fails connect s n ∧ outcome connect s n = .ok f := by
  induction k with
  | zero => exact absurd (fun i hi => absurd hi (Nat.not_lt_zero i)) h
  | succ k ih =>
    by_cases hk : Fails connect s k
    · refine ⟨k, k.lt_succ_self, ?_⟩
      cases ho : outcome connect s k with
      | ok f => exact ⟨f, hk, rfl⟩
      | error err =>
        refine absurd (fun i hi => ?_) h
        rcases Nat.lt_succ_iff_lt_or_eq.mp hi with hi | rfl
        · exact hk i hi
        · exact ⟨err, ho⟩
    · obtain ⟨n, hn, hf⟩ := ih hk
      exact ⟨n, Nat.lt_succ_of_lt hn, hf⟩

def again : StateM (Link (StateM σ) φ × σ) (Use (StateM σ) φ) :=
  fun (l, s) => ((l.use s).1, (l.use s).1.link, (l.use s).2)

def attemptsIn (k : ℕ) (l : Link (StateM σ) φ) (s : σ) : ℕ :=
  (List.range k).countP fun n => (answerAfter again n (l, s)).attempt.isSome

lemma again_of_forge (h : l.forge? = some f) (k : ℕ) (s : σ) :
    stateAfter again k (l, s) = (l, s) ∧ answerAfter again k (l, s) = ⟨.ok f, l, none, []⟩ := by
  have hs : stateAfter again k (l, s) = (l, s) :=
    stateAfter_of_fixed (by simp only [again, use_of_forge h]) k
  exact ⟨hs, by simp only [answerAfter, hs, again, use_of_forge h]⟩

lemma stateAfter_again_of_fails (h : Fails connect s n) :
    stateAfter again n (⟨connect, none⟩, s) = (⟨connect, none⟩, stateAfter connect n s) := by
  induction n with
  | zero => rfl
  | succ n ih =>
    obtain ⟨err, herr⟩ := h n n.lt_succ_self
    rw [outcome, answerAfter] at herr
    rw [stateAfter_succ, ih (h.mono n.le_succ), stateAfter_succ]
    simp only [again, use_of_unconnected, keep, herr]

lemma answerAfter_again_of_fails (h : Fails connect s n) :
    answerAfter again n (⟨connect, none⟩, s) = keep ⟨connect, none⟩ (answerAfter connect n s) := by
  rw [answerAfter, stateAfter_again_of_fails h]
  rfl

lemma keep_result (l : Link (StateM σ) φ) (x : Logged (Except ForgeError φ)) :
    (l.keep x).result = x.value ∧ (l.keep x).attempt = some (x.value.map fun _ => ()) := by
  rw [keep]
  cases hx : x.value <;> simp [Except.map]

lemma again_of_success (h : Fails connect s n) (hf : outcome connect s n = .ok f) (hk : n < k) :
    stateAfter again k (⟨connect, none⟩, s) = (⟨connect, some f⟩, stateAfter connect (n + 1) s) ∧
      answerAfter again k (⟨connect, none⟩, s) = ⟨.ok f, ⟨connect, some f⟩, none, []⟩ := by
  have hfirst : stateAfter again (n + 1) (⟨connect, none⟩, s) =
      (⟨connect, some f⟩, stateAfter connect (n + 1) s) := by
    rw [outcome, answerAfter] at hf
    rw [stateAfter_succ, stateAfter_again_of_fails h, stateAfter_succ]
    simp only [again, use_of_unconnected, keep, hf]
  obtain ⟨j, rfl⟩ := Nat.exists_eq_add_of_le' (Nat.succ_le_of_lt hk)
  have hrest := again_of_forge (l := ⟨connect, some f⟩) rfl j (stateAfter connect (n + 1) s)
  rw [answerAfter, stateAfter_add, hfirst]
  exact hrest

lemma attemptsIn_of_fails (h : Fails connect s k) : attemptsIn k ⟨connect, none⟩ s = k := by
  rw [attemptsIn, List.countP_eq_length.mpr, List.length_range]
  intro n hn
  rw [answerAfter_again_of_fails (h.mono (List.mem_range.mp hn).le), (keep_result _ _).2]
  rfl

lemma attemptsIn_of_success (h : Fails connect s n) (hf : outcome connect s n = .ok f) (k : ℕ) :
    attemptsIn k ⟨connect, none⟩ s = min k (n + 1) := by
  induction k with
  | zero => rfl
  | succ k ih =>
    rw [attemptsIn, List.range_succ, List.countP_append, ← attemptsIn, ih]
    by_cases hk : k ≤ n
    · rw [List.countP_singleton, answerAfter_again_of_fails (h.mono hk), (keep_result _ _).2]
      simp; omega
    · rw [List.countP_singleton, (again_of_success h hf (Nat.lt_of_not_le hk)).2]
      simp; omega

lemma inspect_eq_iff (l : Link (StateM σ) φ) :
    (l.inspect = "LazyForge \x7b connected: true \x7d" ↔ l.isConnected = true) ∧
      (l.inspect = "LazyForge \x7b connected: false \x7d" ↔ l.isConnected = false) := by
  unfold inspect
  cases l.isConnected <;> decide

lemma isConnected_again_iff (k : ℕ) :
    (stateAfter again k (⟨connect, none⟩, s)).1.isConnected = true ↔ ¬ Fails connect s k := by
  by_cases h : Fails connect s k
  · simp [stateAfter_again_of_fails h, h, isConnected]
  · obtain ⟨n, hn, f, hfails, hf⟩ := exists_first_success h
    simp [(again_of_success hfails hf hn).1, h, isConnected]

/-- As long as attempts fail, each use makes one. The forge of the first that succeeds is kept. -/
theorem use_again (connect : StateM σ (Logged (Except ForgeError φ))) (s : σ) :
    (∀ n, Fails connect s n →
      attemptsIn n ⟨connect, none⟩ s = n ∧
      stateAfter again n (⟨connect, none⟩, s) = (⟨connect, none⟩, stateAfter connect n s) ∧
      (answerAfter again n (⟨connect, none⟩, s)).result = outcome connect s n ∧
      (answerAfter again n (⟨connect, none⟩, s)).attempt =
        some ((outcome connect s n).map fun _ => ())) ∧
    (∀ n f, Fails connect s n → outcome connect s n = .ok f → ∀ k,
      attemptsIn k ⟨connect, none⟩ s = min k (n + 1) ∧
      (n < k →
        stateAfter again k (⟨connect, none⟩, s) =
          (⟨connect, some f⟩, stateAfter connect (n + 1) s) ∧
        answerAfter again k (⟨connect, none⟩, s) = ⟨.ok f, ⟨connect, some f⟩, none, []⟩)) ∧
    (∀ k, let l := (stateAfter again k (⟨connect, none⟩, s)).1
      (l.isConnected = true ↔ ¬ Fails connect s k) ∧
      (l.inspect = "LazyForge \x7b connected: true \x7d" ↔ ¬ Fails connect s k) ∧
      (l.inspect = "LazyForge \x7b connected: false \x7d" ↔ Fails connect s k)) ∧
    ∀ f : φ, (ready f : Link (StateM σ) φ).forge? = some f ∧
      ∀ l : Link (StateM σ) φ, l.forge? = some f →
        l.isConnected = true ∧ l.inspect = "LazyForge \x7b connected: true \x7d" ∧
        ∀ k, attemptsIn k l s = 0 ∧ stateAfter again k (l, s) = (l, s) ∧
          answerAfter again k (l, s) = ⟨.ok f, l, none, []⟩ := by
  refine ⟨fun n h => ⟨attemptsIn_of_fails h, stateAfter_again_of_fails h, ?_, ?_⟩,
    fun n f h hf k => ⟨attemptsIn_of_success h hf k, again_of_success h hf⟩, fun k => ?_,
    fun f => ⟨rfl, fun l hl => ?_⟩⟩
  · rw [answerAfter_again_of_fails h, (keep_result _ _).1]
    rfl
  · rw [answerAfter_again_of_fails h, (keep_result _ _).2]
    rfl
  · intro l
    have hl : l.isConnected = true ↔ ¬ Fails connect s k := isConnected_again_iff k
    refine ⟨hl, l.inspect_eq_iff.1.trans hl, l.inspect_eq_iff.2.trans ?_⟩
    rw [← Bool.not_eq_true, hl, not_not]
  · have hc : l.isConnected = true := by simp [isConnected, hl]
    refine ⟨hc, l.inspect_eq_iff.1.mpr hc, fun k => ⟨?_, again_of_forge hl k s⟩⟩
    simp [attemptsIn, (again_of_forge hl _ s).2]

def thirdTime : StateM ℕ (Logged (Except ForgeError String)) :=
  fun n => (⟨if n < 2 then .error (.connection .upstream "refused") else .ok "forge", []⟩, n + 1)

theorem use_again_thirdTime :
    let l : Link (StateM ℕ) String := ⟨thirdTime, none⟩
    Fails thirdTime 0 2 ∧ outcome thirdTime 0 2 = .ok "forge" ∧ attemptsIn 2 l 0 = 2 ∧
      attemptsIn 5 l 0 = 3 ∧ stateAfter again 5 (l, 0) = (⟨thirdTime, some "forge"⟩, 3) ∧
      (answerAfter again 5 (l, 0)).result = .ok "forge" ∧
      attemptsIn 5 (ready "forge") 0 = 0 := by
  intro l
  obtain ⟨hunconnected, hconnected, -, hready⟩ := use_again thirdTime 0
  have hfails : Fails thirdTime 0 2 := by
    intro i hi
    interval_cases i <;> exact ⟨_, rfl⟩
  have hthird : outcome thirdTime 0 2 = .ok "forge" := rfl
  obtain ⟨hcount, hafter⟩ := hconnected 2 "forge" hfails hthird 5
  obtain ⟨hstate, hanswer⟩ := hafter (by decide)
  obtain ⟨hnone, -, -⟩ := ((hready "forge").2 (ready "forge") rfl).2.2 5
  exact ⟨hfails, hthird, (hunconnected 2 hfails).1, hcount, hstate, by rw [hanswer], hnone⟩

end Link

end JobDispatch
