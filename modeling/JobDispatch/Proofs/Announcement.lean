import JobDispatch.Proofs.Recognition

namespace JobDispatch

open Log.Record Text

namespace Recognized

def announcement (e : Event) : Recognized → Log.Record
  | .release owner repo tag _ =>
    info .recognition "New release event" [("namespace", owner), ("repo", repo), ("tag", tag)]
  | .pullRequest _ _ _ number _ =>
    info .recognition "GitHub pull request event"
      [("pr", toString number),
        ("target_repo", quotedOption (e.text? ["repository", "full_name"]))]
  | .distGitCommit owner repo branch =>
    info .recognition "New commits added to dist-git"
      [("namespace", owner), ("repo", repo), ("branch", branch),
        ("msg_id", quotedOption (e.text? ["msg_id"]))]

@[simp] lemma announcement_level (e : Event) (r : Recognized) :
    (r.announcement e).level = .info := by
  cases r <;> rfl

def checked? : Recognized → Option Recognized
  | .release owner repo tag url => do
    return .release (← nonempty? owner) (← nonempty? repo) (← nonempty? tag) url
  | .pullRequest owner repo headRef number url => do
    return .pullRequest (← nonempty? owner) (← nonempty? repo) (← nonempty? headRef) number url
  | .distGitCommit owner repo branch => do
    return .distGitCommit (← nonempty? owner) (← nonempty? repo) (← nonempty? branch)

lemma checked?_eq_some {r : Recognized} (h : r.owner ≠ "" ∧ r.repo ≠ "" ∧ r.ref ≠ "") :
    r.checked? = some r := by
  obtain ⟨ho, hr, hf⟩ := h
  have hn : ∀ s, s ≠ "" → nonempty? s = some s := fun s hs => nonempty?_eq_some_iff.mpr ⟨rfl, hs⟩
  cases r with
  | release owner repo ref url | pullRequest owner repo ref number url
  | distGitCommit owner repo ref =>
    rw [checked?, hn owner ho, hn repo hr, hn ref hf]
    rfl

end Recognized

namespace Logged

variable {α : Type} {x : Logged (Option α)} {y : Unit → Logged (Option α)}

lemma orElse_of_some {a : α} (h : x.value = some a) : x.orElse y = x := by
  simp [orElse, h]

lemma orElse_of_none (h : x.value = none) : x.orElse y = ⟨(y ()).value, x.log ++ (y ()).log⟩ := by
  simp [orElse, h]

def checked (x : Logged (Option Recognized)) : Logged (Option Recognized) :=
  ⟨x.value.bind Recognized.checked?, x.log⟩

lemma checked_eq {x : Logged (Option Recognized)}
    (h : ∀ r, x.value = some r → r.owner ≠ "" ∧ r.repo ≠ "" ∧ r.ref ≠ "") : x.checked = x := by
  obtain ⟨value, log⟩ := x
  cases value with
  | none => rfl
  | some r => exact congrArg (Logged.mk · log) (Recognized.checked?_eq_some (h r rfl))

end Logged

namespace Log

def infos (rs : List Record) : List Record := rs.filter fun r => r.level = .info

def warnings (rs : List Record) : Nat := rs.countP fun r => r.level = .warn

@[simp] lemma infos_append (rs ss : List Record) : infos (rs ++ ss) = infos rs ++ infos ss :=
  List.filter_append ..

@[simp] lemma warnings_append (rs ss : List Record) :
    warnings (rs ++ ss) = warnings rs + warnings ss :=
  List.countP_append ..

end Log

namespace Event

variable {e : Event} {Suits : Prop} {x : Logged (Option Recognized)} {r : Recognized}

inductive Course (e : Event) (Suits : Prop) : Logged (Option Recognized) → Prop
  | silent {message : String} {fields : List (String × String)} :
      Course e Suits ⟨none, [debug .recognition message fields]⟩
  | warned {message missing : String} {fields : List (String × String)} : Suits →
      Course e Suits ⟨none, [debug .recognition message fields, warn .recognition missing]⟩
  | announced {message : String} {fields : List (String × String)} (r : Recognized) : Suits →
      Course e Suits ⟨some r, [debug .recognition message fields, r.announcement e]⟩

lemma course_asRelease (e : Event) :
    e.Course (e.text? ["action"] = some "published") e.asRelease := by
  simp only [asRelease]
  split_ifs with hg
  · exact .silent
  have ha : e.text? ["action"] = some "published" := by
    by_contra hn
    exact hg (by simp [hn])
  split
  · split
    · exact .warned ha
    · exact .announced (.release ..) ha
  · exact .warned ha

lemma course_asPullRequest (e : Event) :
    e.Course (∃ action ∈ pullRequestActions, e.text? ["action"] = some action)
      e.asPullRequest := by
  simp only [asPullRequest]
  split_ifs
  · exact .silent
  split
  · rename_i action number ha hn
    split_ifs with hm
    · have hs : ∃ action ∈ pullRequestActions, e.text? ["action"] = some action := ⟨action, hm, ha⟩
      split
      · split
        · exact .warned hs
        · exact .announced (.pullRequest ..) hs
      · exact .warned hs
    · exact .silent
  · exact .silent

lemma course_asDistGitCommit (e : Event) :
    e.Course (e.text? ["topic"] = some distGitTopic) e.asDistGitCommit := by
  simp only [asDistGitCommit]
  split_ifs with hg
  · exact .silent
  have ht : e.text? ["topic"] = some distGitTopic := not_not.mp hg
  split
  · split
    · exact .warned ht
    · exact .announced (.distGitCommit ..) ht
  · exact .warned ht

namespace Course

lemma warnings_le (h : e.Course Suits x) : Log.warnings x.log ≤ 1 := by
  cases h <;> simp [Log.warnings, debug, warn]

lemma suits_of_warnings (h : e.Course Suits x) (hw : Log.warnings x.log ≠ 0) : Suits := by
  cases h with
  | silent => simp [Log.warnings, debug] at hw
  | warned hs | announced _ hs => exact hs

lemma suits_of_some (h : e.Course Suits x) (hr : x.value = some r) : Suits := by
  cases h with
  | silent | warned => simp at hr
  | announced _ hs => exact hs

lemma warnings_of_some (h : e.Course Suits x) (hr : x.value = some r) :
    Log.warnings x.log = 0 := by
  cases h with
  | silent | warned => simp at hr
  | announced => simp [Log.warnings, debug]

end Course

structure Announces (e : Event) (x : Logged (Option Recognized)) : Prop where
  infos : Log.infos x.log = (x.value.map (Recognized.announcement e)).toList
  last : ∀ r, x.value = some r → x.log.getLast? = some (r.announcement e)

lemma Course.announces (h : e.Course Suits x) : e.Announces x := by
  cases h with
  | silent | warned => exact ⟨by simp [Log.infos, debug, warn], by simp⟩
  | announced r =>
    refine ⟨by simp [Log.infos, debug], fun s hs => ?_⟩
    obtain rfl := Option.some.inj hs
    rfl

lemma Announces.orElse {y : Unit → Logged (Option Recognized)} (hx : e.Announces x)
    (hy : e.Announces (y ())) : e.Announces (x.orElse y) := by
  cases hv : x.value with
  | some r => rwa [Logged.orElse_of_some hv]
  | none =>
    rw [Logged.orElse_of_none hv]
    constructor
    · rw [Log.infos_append, hx.infos, hy.infos, hv]
      rfl
    · intro r hr
      rw [List.getLast?_append, hy.last r hr]
      rfl

lemma announces_recognized (e : Event) : e.Announces e.recognized := by
  rw [recognized]
  split_ifs
  · exact ⟨rfl, by simp⟩
  · exact (e.course_asRelease.announces.orElse e.course_asPullRequest.announces).orElse
      e.course_asDistGitCommit.announces

lemma not_published_of_pullRequestAction
    (h : ∃ action ∈ pullRequestActions, e.text? ["action"] = some action) :
    e.text? ["action"] ≠ some "published" := by
  obtain ⟨action, hm, ha⟩ := h
  intro hp
  obtain rfl := Option.some.inj (ha.symm.trans hp)
  exact absurd hm (by decide)

lemma warnings_actions_le (e : Event) :
    Log.warnings (e.asRelease.log ++ e.asPullRequest.log) ≤ 1 := by
  have hr := e.course_asRelease
  have hp := e.course_asPullRequest
  rw [Log.warnings_append]
  by_cases hw : Log.warnings e.asPullRequest.log = 0
  · have := hr.warnings_le
    omega
  · -- The action suits one of the two at most.
    have hn : Log.warnings e.asRelease.log = 0 := by
      by_contra hw'
      exact not_published_of_pullRequestAction (hp.suits_of_warnings hw) (hr.suits_of_warnings hw')
    have := hp.warnings_le
    omega

lemma warnings_asRelease_of_pullRequest (h : e.asPullRequest.value = some r) :
    Log.warnings e.asRelease.log = 0 := by
  by_contra hw
  exact not_published_of_pullRequestAction (e.course_asPullRequest.suits_of_some h)
    (e.course_asRelease.suits_of_warnings hw)

def consulted (e : Event) : Option Trigger → List Log.Record
  | some .release => e.asRelease.log
  | some .pullRequest => e.asRelease.log ++ e.asPullRequest.log
  | some .commit | none => e.asRelease.log ++ e.asPullRequest.log ++ e.asDistGitCommit.log

lemma recognized_cases (he : e.isEmpty = false) :
    (∃ r, e.asRelease.value = some r ∧ e.recognized = e.asRelease) ∨
      (∃ r, e.asRelease.value = none ∧ e.asPullRequest.value = some r ∧
        e.recognized = ⟨some r, e.asRelease.log ++ e.asPullRequest.log⟩) ∨
      e.asRelease.value = none ∧ e.asPullRequest.value = none ∧
        e.recognized = ⟨e.asDistGitCommit.value,
          e.asRelease.log ++ e.asPullRequest.log ++ e.asDistGitCommit.log⟩ := by
  simp only [recognized, he, Bool.false_eq_true, if_false]
  cases hr : e.asRelease.value with
  | some r =>
    rw [Logged.orElse_of_some hr, Logged.orElse_of_some hr]
    exact .inl ⟨r, rfl, rfl⟩
  | none =>
    rw [Logged.orElse_of_none hr]
    cases hp : e.asPullRequest.value with
    | some r => exact .inr (.inl ⟨r, rfl, rfl, rfl⟩)
    | none => exact .inr (.inr ⟨rfl, rfl, rfl⟩)

lemma log_recognized (he : e.isEmpty = false) :
    e.recognized.log = e.consulted (e.recognized.value.map Recognized.trigger) := by
  rcases e.recognized_cases he with ⟨r, hr, h⟩ | ⟨r, -, hp, h⟩ | ⟨-, -, h⟩
  · obtain ⟨_, _, _, -, rfl⟩ := asRelease_eq_some_iff.mp hr
    rw [h, hr]
    rfl
  · obtain ⟨_, _, _, _, -, rfl⟩ := asPullRequest_eq_some_iff.mp hp
    rw [h]
    rfl
  · rw [h]
    cases hc : e.asDistGitCommit.value with
    | none => rfl
    | some r =>
      obtain ⟨_, _, _, -, rfl⟩ := asDistGitCommit_eq_some_iff.mp hc
      rfl

lemma warnings_recognized_le (e : Event) : Log.warnings e.recognized.log ≤ 2 := by
  by_cases he : e.isEmpty = true
  · simp [recognized, he, Log.warnings]
  have hactions := e.warnings_actions_le
  have hcommit := e.course_asDistGitCommit.warnings_le
  rw [Log.warnings_append] at hactions
  rcases e.recognized_cases (Bool.eq_false_iff.mpr he) with ⟨r, -, h⟩ | ⟨r, -, -, h⟩ | ⟨-, -, h⟩
  · rw [h]
    omega
  · rw [h, Log.warnings_append]
    omega
  · rw [h, Log.warnings_append, Log.warnings_append]
    omega

lemma trigger_of_warnings (hr : e.recognized.value = some r)
    (hw : Log.warnings e.recognized.log ≠ 0) : r.trigger = .commit := by
  have he : e.isEmpty = false := by
    cases he : e.isEmpty with
    | false => rfl
    | true => simp [recognized, he] at hr
  rcases e.recognized_cases he with ⟨s, hs, h⟩ | ⟨s, -, hs, h⟩ | ⟨-, -, h⟩
  · rw [h, e.course_asRelease.warnings_of_some hs] at hw
    exact absurd rfl hw
  · rw [h, Log.warnings_append, warnings_asRelease_of_pullRequest hs,
      e.course_asPullRequest.warnings_of_some hs] at hw
    exact absurd rfl hw
  · rw [h] at hr
    obtain ⟨_, _, _, -, rfl⟩ := asDistGitCommit_eq_some_iff.mp hr
    rfl

/-- Recognition that checks the names of each result once more, after it has been announced. -/
def recognizedAnew (e : Event) : Logged (Option Recognized) :=
  if e.isEmpty then ⟨none, []⟩
  else
    (e.asRelease.checked.orElse fun _ => e.asPullRequest.checked).orElse
      fun _ => e.asDistGitCommit.checked

lemma recognizedAnew_eq (e : Event) : e.recognizedAnew = e.recognized := by
  have hr : e.asRelease.checked = e.asRelease := by
    apply Logged.checked_eq
    intro r hr
    obtain ⟨_, _, _, h, rfl⟩ := asRelease_eq_some_iff.mp hr
    exact ⟨h.owner.2, h.repo.2, h.tag.2⟩
  have hp : e.asPullRequest.checked = e.asPullRequest := by
    apply Logged.checked_eq
    intro r hr
    obtain ⟨_, _, _, _, h, rfl⟩ := asPullRequest_eq_some_iff.mp hr
    exact ⟨h.owner.2, h.repo.2, h.headRef.2⟩
  have hc : e.asDistGitCommit.checked = e.asDistGitCommit := by
    apply Logged.checked_eq
    intro r hr
    obtain ⟨_, _, _, h, rfl⟩ := asDistGitCommit_eq_some_iff.mp hr
    exact ⟨h.owner.2, h.repo.2, h.branch.2⟩
  rw [recognizedAnew, recognized, hr, hp, hc]

theorem recognized_announced (e : Event) :
    Log.infos e.recognized.log = (e.recognized.value.map (Recognized.announcement e)).toList ∧
      (∀ r, e.recognized.value = some r →
        e.recognized.log.getLast? = some (r.announcement e) ∧
          (Log.warnings e.recognized.log ≠ 0 → r.trigger = .commit)) ∧
      (e.isEmpty = true → e.recognized.log = []) ∧
      (e.isEmpty = false →
        e.recognized.log = e.consulted (e.recognized.value.map Recognized.trigger)) ∧
      Log.warnings e.recognized.log ≤ 2 ∧
      Log.warnings (e.asRelease.log ++ e.asPullRequest.log) ≤ 1 ∧
      e.recognizedAnew = e.recognized := by
  obtain ⟨hinfos, hlast⟩ := e.announces_recognized
  refine ⟨hinfos, ?_, ?_, log_recognized, e.warnings_recognized_le, e.warnings_actions_le,
    e.recognizedAnew_eq⟩
  · intro r hr
    exact ⟨hlast r hr, trigger_of_warnings hr⟩
  · intro he
    simp [recognized, he]

def pushedAndPublished : Event where
  payload := .object [
    ("action", .text "published"),
    ("msg", .object [("commit", .object [("branch", .text "f40"), ("namespace", .text "rpms"),
      ("repo", .text "widget")])]),
    ("release", .object [("tag_name", .text "v1.0")]),
    ("topic", .text "org.fedoraproject.prod.git.receive")]

theorem recognized_announced_pushedAndPublished :
    let e := pushedAndPublished
    let r : Recognized := .distGitCommit "rpms" "widget" "f40"
    e.recognized.value = some r ∧ e.isEmpty = false ∧ Log.warnings e.recognized.log = 1 ∧
      e.recognized.log.getLast? = some (r.announcement e) ∧
      Log.infos e.recognized.log = [r.announcement e] ∧
      e.recognized.log = e.asRelease.log ++ e.asPullRequest.log ++ e.asDistGitCommit.log := by
  intro e r
  have hr : e.recognized.value = some r := by decide +kernel
  have he : e.isEmpty = false := rfl
  obtain ⟨hinfos, hlast, -, hlog, -, -, -⟩ := recognized_announced e
  rw [hr] at hinfos hlog
  exact ⟨hr, he, by decide +kernel, (hlast r hr).1, hinfos, hlog he⟩

end Event

end JobDispatch
