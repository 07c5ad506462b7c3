import JobDispatch.Offline.Replay
import JobDispatch.Proofs.EventStream

/-! The numbers that a recorder gives to builds. They count the builds and nothing else, and the
address of a build ends with its number, so that builds are told apart by either. -/

namespace JobDispatch

open Log.Record Text

section Numbered

variable {α β : Type} {f : UInt64 → α → β} {n : UInt64}

def numbered (f : UInt64 → α → β) (n : UInt64) (xs : List α) : List β :=
  xs.mapIdx fun i x => f (n + .ofNat i) x

@[simp] lemma numbered_nil : numbered f n [] = [] := rfl

@[simp] lemma numbered_cons (x : α) (xs : List α) :
    numbered f n (x :: xs) = f n x :: numbered f (n + 1) xs := by
  simp only [numbered, List.mapIdx_cons, UInt64.ofNat_add]
  congr 1
  · rw [show UInt64.ofNat 0 = 0 from rfl, UInt64.add_zero]
  · congr 1
    funext i y
    rw [UInt64.add_comm (UInt64.ofNat i), UInt64.add_assoc]
    rfl

lemma numbered_append (xs ys : List α) :
    numbered f n (xs ++ ys) = numbered f n xs ++ numbered f (n + .ofNat xs.length) ys := by
  induction xs generalizing n with
  | nil => simp
  | cons x xs ih =>
    simp only [List.cons_append, numbered_cons, ih, List.length_cons, UInt64.ofNat_add]
    rw [UInt64.add_comm (UInt64.ofNat xs.length), UInt64.add_assoc]
    rfl

lemma numbered_one (xs : List α) :
    numbered f 1 xs = xs.mapIdx fun i x => f (.ofNat (i + 1)) x := by
  simp only [numbered, UInt64.ofNat_add]
  congr 1
  funext i x
  rw [UInt64.add_comm]
  rfl

end Numbered

lemma ofNat_succ_inj {i j : Nat} (hi : i < UInt64.size) (hj : j < UInt64.size)
    (h : UInt64.ofNat (i + 1) = UInt64.ofNat (j + 1)) : i = j := by
  have h := congrArg UInt64.toNat h
  simp only [UInt64.toNat_ofNat'] at h
  simp only [UInt64.size] at hi hj
  omega

namespace Recorder

lemma toList_toString (n : UInt64) : (toString n).toList = Nat.toDigits 10 n.toNat :=
  Nat.toList_repr

lemma slash_not_mem_toString (n : UInt64) : '/' ∉ (toString n).toList := by
  rw [toList_toString]
  intro hm
  exact absurd (Nat.isDigit_of_mem_toDigits (by decide) (by decide) hm) (by decide)

lemma toList_toString_inj {a b : UInt64} (h : (toString a).toList = (toString b).toList) :
    a = b := by
  rw [toList_toString, toList_toString] at h
  apply UInt64.toNat_inj.mp
  calc
    a.toNat = Nat.ofDigitChars 10 (Nat.toDigits 10 a.toNat) 0 :=
      Nat.ofDigitChars_ten_toDigits.symm
    _ = Nat.ofDigitChars 10 (Nat.toDigits 10 b.toNat) 0 := by rw [h]
    _ = b.toNat := Nat.ofDigitChars_ten_toDigits

lemma exists_infoUrl (request : CoprBuildRequest) (id : UInt64) :
    ∃ front, infoUrl request id = front ++ "/build/" ++ toString id :=
  ⟨"offline://copr/" ++ request.owner ++ "/" ++ request.project, rfl⟩

lemma pieces_infoUrl (request : CoprBuildRequest) (id : UInt64) :
    (pieces '/' (infoUrl request id).toList).getLast? = some (toString id).toList := by
  obtain ⟨front, h⟩ := exists_infoUrl request id
  have hl : (infoUrl request id).toList =
      (front.toList ++ ['/', 'b', 'u', 'i', 'l', 'd']) ++ '/' :: (toString id).toList := by
    rw [h, String.toList_append, String.toList_append]
    simp
  rw [hl, pieces_append_cons, pieces_of_not_mem (slash_not_mem_toString id)]
  simp

lemma infoUrl_inj {request request' : CoprBuildRequest} {a b : UInt64}
    (h : infoUrl request a = infoUrl request' b) : a = b := by
  have hp := pieces_infoUrl request a
  rw [h, pieces_infoUrl request' b] at hp
  exact (toList_toString_inj (Option.some.inj hp)).symm

def buildOf (id : UInt64) (request : CoprBuildRequest) : CoprBuild := ⟨id, infoUrl request id⟩

structure Answered where
  call : PackagingCall
  answer : Except PackagingError call.Result

def Answered.build? : Answered → Option (Except PackagingError CoprBuild)
  | ⟨.build .., answer⟩ => some answer
  | _ => none

section Answers

variable {ω : Type} (files : Files (StateM ω)) (r : Recorder)

def answers : List PackagingCall → StateT UInt64 (StateM ω) (List Answered)
  | [] => return []
  | call :: calls => do
    let x ← r.ask files call
    return ⟨call, x.value⟩ :: (← answers calls)

end Answers

end Recorder

def PackagingCall.request? : PackagingCall → Option CoprBuildRequest
  | .build _ _ request => some request
  | _ => none

namespace Recorder

variable {ω : Type} (files : Files (StateM ω)) (r : Recorder)

lemma ask_of_request?_none {call : PackagingCall} (h : call.request? = none) (n : UInt64) (w : ω) :
    (r.ask files call n w).1.2 = n := by
  cases call with
  | build => simp [PackagingCall.request?] at h
  | sourceUrl package p =>
    cases hs : package.specfile? with
    | none =>
      simp only [ask, hs]
      rfl
    | some specfile =>
      simp only [ask, hs]
      rfl
  | carryBack | checkPullRequest | proposeRelease => rfl

lemma build?_of_request?_none {call : PackagingCall} (h : call.request? = none)
    (answer : Except PackagingError call.Result) : Answered.build? ⟨call, answer⟩ = none := by
  cases call with
  | build => simp [PackagingCall.request?] at h
  | sourceUrl | carryBack | checkPullRequest | proposeRelease => rfl

lemma answers_numbered (calls : List PackagingCall) (n : UInt64) (w : ω) :
    let requests := calls.filterMap PackagingCall.request?
    let o := (r.answers files calls n w).1
    o.1.map Answered.call = calls ∧
      o.1.filterMap Answered.build? = (numbered buildOf n requests).map .ok ∧
      o.2 = n + .ofNat requests.length := by
  induction calls generalizing n w with
  | nil =>
    intro requests o
    exact ⟨rfl, rfl, (UInt64.add_zero n).symm⟩
  | cons call calls ih =>
    intro requests o
    have ho : o = (⟨call, (r.ask files call n w).1.1.value⟩ ::
          (r.answers files calls (r.ask files call n w).1.2 (r.ask files call n w).2).1.1,
        (r.answers files calls (r.ask files call n w).1.2 (r.ask files call n w).2).1.2) := rfl
    obtain ⟨hcalls, hbuilds, hnext⟩ := ih (r.ask files call n w).1.2 (r.ask files call n w).2
    rw [ho, List.map_cons, hcalls]
    refine ⟨rfl, ?_⟩
    cases hr : call.request? with
    | none =>
      have hreq : requests = calls.filterMap PackagingCall.request? :=
        List.filterMap_cons_none hr
      rw [r.ask_of_request?_none files hr] at hbuilds hnext
      rw [List.filterMap_cons_none (build?_of_request?_none hr _),
        r.ask_of_request?_none files hr, hreq]
      exact ⟨hbuilds, hnext⟩
    | some request =>
      have hreq : requests = request :: calls.filterMap PackagingCall.request? :=
        List.filterMap_cons_some hr
      cases call with
      | build package p request' =>
        obtain rfl := Option.some.inj hr
        have hn : (r.ask files (.build package p request') n w).1.2 = n + 1 := rfl
        rw [hn] at hbuilds hnext
        rw [hreq, numbered_cons, List.map_cons, ← hbuilds, List.length_cons, UInt64.ofNat_add,
          UInt64.add_comm (UInt64.ofNat _), ← UInt64.add_assoc]
        exact ⟨rfl, hnext⟩
      | sourceUrl | carryBack | checkPullRequest | proposeRelease =>
        simp [PackagingCall.request?] at hr

def builds (calls : List PackagingCall) : List CoprBuild :=
  (calls.filterMap PackagingCall.request?).mapIdx fun k request => buildOf (.ofNat (k + 1)) request

lemma answers_first (calls : List PackagingCall) (w : ω) :
    let o := (r.answers files calls Replay.firstBuild w).1
    o.1.map Answered.call = calls ∧ o.1.filterMap Answered.build? = (builds calls).map .ok ∧
      o.2 = .ofNat ((builds calls).length + 1) := by
  intro o
  obtain ⟨hcalls, hbuilds, hnext⟩ := r.answers_numbered files calls Replay.firstBuild w
  have hn : Replay.firstBuild = 1 := rfl
  rw [hn, numbered_one] at hbuilds
  refine ⟨hcalls, hbuilds, hnext.trans ?_⟩
  rw [builds, List.length_mapIdx, UInt64.ofNat_add, UInt64.add_comm]
  rfl

lemma infoUrl_of_mem_builds {calls : List PackagingCall} {b : CoprBuild} (h : b ∈ builds calls) :
    ∃ front, b.infoUrl = front ++ "/build/" ++ toString b.buildId := by
  obtain ⟨k, hk, rfl⟩ := List.mem_mapIdx.mp h
  exact exists_infoUrl _ _

lemma builds_distinct (calls : List PackagingCall) :
    ((builds calls).take UInt64.size).Pairwise fun b b' =>
      b.buildId ≠ b'.buildId ∧ b.infoUrl ≠ b'.infoUrl := by
  rw [List.pairwise_iff_getElem]
  intro i j hi hj hij
  have hlt : j < UInt64.size := by
    rw [List.length_take] at hj
    omega
  simp only [builds, List.getElem_take, List.getElem_mapIdx, buildOf]
  have hne : UInt64.ofNat (i + 1) ≠ UInt64.ofNat (j + 1) := by
    intro h
    exact absurd (ofNat_succ_inj (hij.trans hlt) hlt h) hij.ne
  exact ⟨hne, fun h => hne (infoUrl_inj h)⟩

end Recorder

end JobDispatch
