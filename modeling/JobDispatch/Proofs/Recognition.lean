import JobDispatch.Recognition
import Mathlib.Tactic

namespace JobDispatch

lemma Json.isTruthy_of_at? {v w : Json} {key : String} {path : List String}
    (h : v.at? (key :: path) = some w) : v.isTruthy = true := by
  cases v with
  | object members => cases members <;> simp_all [member?, isTruthy]
  | _ => simp [member?] at h

lemma Logged.orElse_value {α : Type} (x : Logged (Option α)) (y : Unit → Logged (Option α)) :
    (x.orElse y).value = x.value.or (y ()).value := by
  cases h : x.value <;> simp [orElse, h]

lemma Logged.mem_orElse_log {α : Type} {x : Logged (Option α)} {y : Unit → Logged (Option α)}
    {rec : Log.Record} (h : rec ∈ (x.orElse y).log) : rec ∈ x.log ∨ rec ∈ (y ()).log := by
  cases hx : x.value <;> simp_all [orElse]

lemma nonempty?_eq_some_iff {s t : String} : nonempty? t = some s ↔ t = s ∧ s ≠ "" := by
  by_cases ht : t = ""
  · subst ht
    exact ⟨fun h => by simp [nonempty?] at h, fun h => absurd h.1.symm h.2⟩
  · simp only [nonempty?, String.isEmpty_iff, ht, if_false, Option.some.injEq]
    exact ⟨fun h => ⟨h, h ▸ ht⟩, And.left⟩

namespace Event

variable {e : Event} {key : String} {path : List String} {s : String}

def HasText (e : Event) (path : List String) (s : String) : Prop :=
  e.payload.at? path = some (.text s) ∧ s ≠ ""

lemma text?_eq_some_iff : e.text? path = some s ↔ e.HasText path s := by
  cases h : e.payload.at? path with
  | none => simp [text?, at?, HasText, h]
  | some v =>
    cases v with
    | text t => simp [text?, at?, HasText, h, Json.asText?, nonempty?_eq_some_iff]
    | _ => simp [text?, at?, HasText, h, Json.asText?]

lemma natural?_eq_some_iff {n : UInt64} :
    e.natural? path = some n ↔ e.payload.at? path = some (.number (.natural n)) := by
  cases h : e.payload.at? path with
  | none => simp [natural?, at?, h]
  | some v =>
    cases v with
    | number x => cases x <;> simp [natural?, at?, h, Json.asNatural?]
    | _ => simp [natural?, at?, h, Json.asNatural?]

lemma HasText.isEmpty (h : e.HasText (key :: path) s) : e.isEmpty = false := by
  simp [Event.isEmpty, Json.isTruthy_of_at? h.1]

lemma HasText.isTruthyAt {next : String} (h : e.HasText (key :: next :: path) s) :
    e.isTruthyAt [key] = true := by
  obtain ⟨v, hv, hs⟩ := Option.bind_eq_some_iff.mp h.1
  simpa [Event.isTruthyAt, at?, hv] using Json.isTruthy_of_at? hs

structure IsRelease (e : Event) (owner repo tag : String) : Prop where
  action : e.HasText ["action"] "published"
  owner : e.HasText ["repository", "owner", "login"] owner
  repo : e.HasText ["repository", "name"] repo
  tag : e.HasText ["release", "tag_name"] tag

structure IsPullRequest (e : Event) (owner repo headRef : String) (n : UInt64) : Prop where
  action : ∃ action ∈ ["opened", "reopened", "synchronize"], e.HasText ["action"] action
  number : e.payload.at? ["number"] = some (.number (.natural n))
  number_ne_zero : n ≠ 0
  owner : e.HasText ["pull_request", "head", "repo", "owner", "login"] owner
  repo : e.HasText ["pull_request", "head", "repo", "name"] repo
  headRef : e.HasText ["pull_request", "head", "ref"] headRef

structure IsDistGitCommit (e : Event) (owner repo branch : String) : Prop where
  topic : e.HasText ["topic"] "org.fedoraproject.prod.git.receive"
  owner : e.HasText ["msg", "commit", "namespace"] owner
  repo : e.HasText ["msg", "commit", "repo"] repo
  branch : e.HasText ["msg", "commit", "branch"] branch

lemma asRelease_eq_some_iff {r : Recognized} :
    e.asRelease.value = some r ↔
      ∃ owner repo tag, e.IsRelease owner repo tag ∧
        r = .release owner repo tag (e.text? ["repository", "html_url"]) := by
  constructor
  · intro h
    simp only [asRelease] at h
    split_ifs at h with hg
    split at h
    · rename_i owner repo ho hr
      split at h
      · simp at h
      · rename_i tag ht
        have ha : e.text? ["action"] = some "published" := by
          by_contra hn
          exact hg (by simp [hn])
        refine ⟨owner, repo, tag, ?_, by simpa [eq_comm] using h⟩
        exact ⟨text?_eq_some_iff.mp ha, text?_eq_some_iff.mp ho, text?_eq_some_iff.mp hr,
          text?_eq_some_iff.mp ht⟩
    · simp at h
  · rintro ⟨owner, repo, tag, h, rfl⟩
    simp [asRelease, text?_eq_some_iff.mpr h.action, text?_eq_some_iff.mpr h.owner,
      text?_eq_some_iff.mpr h.repo, text?_eq_some_iff.mpr h.tag, h.tag.isTruthyAt]

lemma asPullRequest_eq_some_iff {r : Recognized} :
    e.asPullRequest.value = some r ↔
      ∃ owner repo headRef n, e.IsPullRequest owner repo headRef n ∧
        r = .pullRequest owner repo headRef n (e.text? ["repository", "html_url"]) := by
  constructor
  · intro h
    simp only [asPullRequest] at h
    split_ifs at h with hg
    split at h
    · rename_i action n ha hn
      obtain ⟨hn, hz⟩ := Option.filter_eq_some_iff.mp hn
      split_ifs at h with hm
      split at h
      · rename_i owner repo ho hr
        split at h
        · simp at h
        · rename_i headRef hh
          refine ⟨owner, repo, headRef, n, ?_, by simpa [eq_comm] using h⟩
          exact ⟨⟨action, by simpa [pullRequestActions] using hm, text?_eq_some_iff.mp ha⟩,
            natural?_eq_some_iff.mp hn, by simpa using hz, text?_eq_some_iff.mp ho,
            text?_eq_some_iff.mp hr, text?_eq_some_iff.mp hh⟩
      · simp at h
    · simp at h
  · rintro ⟨owner, repo, headRef, n, h, rfl⟩
    obtain ⟨action, hm, ha⟩ := h.action
    have hm : action ∈ pullRequestActions := hm
    have hn : (e.natural? ["number"]).filter (· ≠ 0) = some n := by
      simp [natural?_eq_some_iff.mpr h.number, Option.filter, h.number_ne_zero]
    simp only [asPullRequest, h.headRef.isTruthyAt, hn, text?_eq_some_iff.mpr ha,
      text?_eq_some_iff.mpr h.owner, text?_eq_some_iff.mpr h.repo, text?_eq_some_iff.mpr h.headRef]
    simp [hm]

lemma asDistGitCommit_eq_some_iff {r : Recognized} :
    e.asDistGitCommit.value = some r ↔
      ∃ owner repo branch, e.IsDistGitCommit owner repo branch ∧
        r = .distGitCommit owner repo branch := by
  constructor
  · intro h
    simp only [asDistGitCommit] at h
    split_ifs at h with hg
    split at h
    · rename_i owner repo ho hr
      split at h
      · simp at h
      · rename_i branch hb
        have ht : e.text? ["topic"] = some distGitTopic := by
          by_contra hn
          exact hg hn
        refine ⟨owner, repo, branch, ?_, by simpa [eq_comm] using h⟩
        exact ⟨text?_eq_some_iff.mp ht, text?_eq_some_iff.mp ho, text?_eq_some_iff.mp hr,
          text?_eq_some_iff.mp hb⟩
    · simp at h
  · rintro ⟨owner, repo, branch, h, rfl⟩
    have ht : e.text? ["topic"] = some distGitTopic := text?_eq_some_iff.mpr h.topic
    simp [asDistGitCommit, ht, text?_eq_some_iff.mpr h.owner, text?_eq_some_iff.mpr h.repo,
      text?_eq_some_iff.mpr h.branch]

inductive Describes (e : Event) : Recognized → Prop
  | release {owner repo tag : String} {url : Option String} : e.IsRelease owner repo tag →
      (∀ s, url = some s ↔ e.HasText ["repository", "html_url"] s) →
      Describes e (.release owner repo tag url)
  | pullRequest {owner repo headRef : String} {n : UInt64} {url : Option String} :
      e.IsPullRequest owner repo headRef n →
      (∀ s, url = some s ↔ e.HasText ["repository", "html_url"] s) →
      Describes e (.pullRequest owner repo headRef n url)
  | distGitCommit {owner repo branch : String} : e.IsDistGitCommit owner repo branch →
      (¬ ∃ owner repo tag, e.IsRelease owner repo tag) →
      (¬ ∃ owner repo headRef n, e.IsPullRequest owner repo headRef n) →
      Describes e (.distGitCommit owner repo branch)

lemma HasText.eq {t : String} (hs : e.HasText path s) (ht : e.HasText path t) : s = t := by
  have h := hs.1.symm.trans ht.1
  simpa using h

lemma IsRelease.not_isPullRequest {owner repo tag owner' repo' headRef : String} {n : UInt64}
    (h : e.IsRelease owner repo tag) : ¬ e.IsPullRequest owner' repo' headRef n := by
  intro h'
  obtain ⟨action, hm, ha⟩ := h'.action
  rw [← h.action.eq ha] at hm
  simp at hm

lemma asRelease_eq_none_iff :
    e.asRelease.value = none ↔ ¬ ∃ owner repo tag, e.IsRelease owner repo tag := by
  simp only [Option.eq_none_iff_forall_not_mem, Option.mem_def, asRelease_eq_some_iff]
  grind

lemma asPullRequest_eq_none_iff :
    e.asPullRequest.value = none ↔
      ¬ ∃ owner repo headRef n, e.IsPullRequest owner repo headRef n := by
  simp only [Option.eq_none_iff_forall_not_mem, Option.mem_def, asPullRequest_eq_some_iff]
  grind

lemma asDistGitCommit_eq_none_iff :
    e.asDistGitCommit.value = none ↔
      ¬ ∃ owner repo branch, e.IsDistGitCommit owner repo branch := by
  simp only [Option.eq_none_iff_forall_not_mem, Option.mem_def, asDistGitCommit_eq_some_iff]
  grind

lemma recognized_value (e : Event) :
    e.recognized.value =
      (e.asRelease.value.or e.asPullRequest.value).or e.asDistGitCommit.value := by
  -- An empty payload is of no kind, so that the check for one changes nothing.
  by_cases he : e.isEmpty
  · have hr : e.asRelease.value = none := by
      rw [asRelease_eq_none_iff]
      rintro ⟨_, _, _, h⟩
      simp [h.tag.isEmpty] at he
    have hp : e.asPullRequest.value = none := by
      rw [asPullRequest_eq_none_iff]
      rintro ⟨_, _, _, _, h⟩
      simp [h.headRef.isEmpty] at he
    have hc : e.asDistGitCommit.value = none := by
      rw [asDistGitCommit_eq_none_iff]
      rintro ⟨_, _, _, h⟩
      simp [h.branch.isEmpty] at he
    simp [recognized, he, hr, hp, hc]
  · simp [recognized, he, Logged.orElse_value]

lemma text?_eq_iff {u : Option String} :
    e.text? path = u ↔ ∀ s, u = some s ↔ e.HasText path s := by
  rw [Option.ext_iff]
  simp only [text?_eq_some_iff]
  exact forall_congr' fun s => Iff.comm

lemma recognized_eq_some_iff (e : Event) (r : Recognized) :
    e.recognized.value = some r ↔ e.Describes r := by
  rw [recognized_value]
  simp only [Option.or_eq_some_iff, Option.or_eq_none_iff, asRelease_eq_some_iff,
    asPullRequest_eq_some_iff, asDistGitCommit_eq_some_iff, asRelease_eq_none_iff,
    asPullRequest_eq_none_iff]
  constructor
  · rintro ((⟨owner, repo, tag, h, rfl⟩ | ⟨_, owner, repo, headRef, n, h, rfl⟩) |
      ⟨⟨hr, hp⟩, owner, repo, branch, h, rfl⟩)
    · exact .release h (text?_eq_iff.mp rfl)
    · exact .pullRequest h (text?_eq_iff.mp rfl)
    · exact .distGitCommit h hr hp
  · rintro (⟨h, hu⟩ | ⟨h, hu⟩ | ⟨h, hr, hp⟩)
    · exact .inl (.inl ⟨_, _, _, h, by rw [text?_eq_iff.mpr hu]⟩)
    · refine .inl (.inr ⟨?_, _, _, _, _, h, by rw [text?_eq_iff.mpr hu]⟩)
      rintro ⟨_, _, _, h'⟩
      exact h'.not_isPullRequest h
    · exact .inr ⟨⟨hr, hp⟩, _, _, _, h, rfl⟩

lemma Describes.nonempty {r : Recognized} (h : e.Describes r) :
    r.owner ≠ "" ∧ r.repo ≠ "" ∧ r.ref ≠ "" := by
  cases h with
  | release h _ => exact ⟨h.owner.2, h.repo.2, h.tag.2⟩
  | pullRequest h _ => exact ⟨h.owner.2, h.repo.2, h.headRef.2⟩
  | distGitCommit h _ _ => exact ⟨h.owner.2, h.repo.2, h.branch.2⟩

lemma asRelease_eq_none_or (e : Event) :
    e.asRelease.value = none ∨ e.asPullRequest.value = none := by
  rw [asRelease_eq_none_iff, asPullRequest_eq_none_iff]
  by_contra h
  push Not at h
  obtain ⟨⟨_, _, _, hr⟩, _, _, _, _, hp⟩ := h
  exact hr.not_isPullRequest hp

lemma recognized_pullRequest_first (e : Event) :
    e.recognized.value =
      if e.isEmpty then none
      else
        ((e.asPullRequest.orElse fun _ => e.asRelease).orElse fun _ =>
          e.asDistGitCommit).value := by
  by_cases he : e.isEmpty
  · simp [recognized, he]
  · rw [recognized_value, if_neg he, Logged.orElse_value, Logged.orElse_value]
    rcases e.asRelease_eq_none_or with h | h <;> simp [h]

lemma noted_of_mem_asRelease_log {rec : Log.Record} (h : rec ∈ e.asRelease.log) :
    rec.part = .recognition ∧ rec.level ≠ .error := by
  simp only [asRelease] at h
  split_ifs at h
  · simp_all [Log.Record.debug]
  split at h
  · split at h <;> rcases List.mem_append.mp h with h | h <;>
      simp_all [Log.Record.debug, Log.Record.warn, Log.Record.info]
  · rcases List.mem_append.mp h with h | h <;> simp_all [Log.Record.debug, Log.Record.warn]

lemma noted_of_mem_asPullRequest_log {rec : Log.Record} (h : rec ∈ e.asPullRequest.log) :
    rec.part = .recognition ∧ rec.level ≠ .error := by
  simp only [asPullRequest] at h
  split_ifs at h
  · simp_all [Log.Record.debug]
  split at h
  · split_ifs at h
    · split at h
      · split at h <;> rcases List.mem_append.mp h with h | h <;>
          simp_all [Log.Record.debug, Log.Record.warn, Log.Record.info]
      · rcases List.mem_append.mp h with h | h <;> simp_all [Log.Record.debug, Log.Record.warn]
    · simp_all [Log.Record.debug]
  · simp_all [Log.Record.debug]

lemma noted_of_mem_asDistGitCommit_log {rec : Log.Record} (h : rec ∈ e.asDistGitCommit.log) :
    rec.part = .recognition ∧ rec.level ≠ .error := by
  simp only [asDistGitCommit] at h
  split_ifs at h
  · simp_all [Log.Record.debug]
  split at h
  · split at h <;> rcases List.mem_append.mp h with h | h <;>
      simp_all [Log.Record.debug, Log.Record.warn, Log.Record.info]
  · rcases List.mem_append.mp h with h | h <;> simp_all [Log.Record.debug, Log.Record.warn]

lemma noted_of_mem_recognized_log (e : Event) {rec : Log.Record} (h : rec ∈ e.recognized.log) :
    rec.part = .recognition ∧ rec.level ≠ .error := by
  rw [recognized] at h
  split_ifs at h
  · simp at h
  rcases Logged.mem_orElse_log h with h | h
  · rcases Logged.mem_orElse_log h with h | h
    · exact noted_of_mem_asRelease_log h
    · exact noted_of_mem_asPullRequest_log h
  · exact noted_of_mem_asDistGitCommit_log h

theorem recognized_iff_describes (e : Event) :
    (∀ r, e.recognized.value = some r ↔ e.Describes r) ∧
      (∀ r, e.recognized.value = some r → r.owner ≠ "" ∧ r.repo ≠ "" ∧ r.ref ≠ "") ∧
      ¬ (e.asRelease.value.isSome ∧ e.asPullRequest.value.isSome) ∧
      (e.recognized.value =
        if e.isEmpty then none
        else
          ((e.asPullRequest.orElse fun _ => e.asRelease).orElse fun _ => e.asDistGitCommit).value) ∧
      (∀ owner repo tag, e.IsRelease owner repo tag →
        e.isTruthyAt ["release"] = true ∧ e.isEmpty = false) ∧
      (∀ owner repo headRef n, e.IsPullRequest owner repo headRef n →
        e.isTruthyAt ["pull_request"] = true ∧ e.isEmpty = false) ∧
      ∀ owner repo branch, e.IsDistGitCommit owner repo branch → e.isEmpty = false := by
  refine ⟨e.recognized_eq_some_iff, ?_, ?_, e.recognized_pullRequest_first, ?_, ?_, ?_⟩
  · intro r h
    exact ((e.recognized_eq_some_iff r).mp h).nonempty
  · rintro ⟨hr, hp⟩
    rcases e.asRelease_eq_none_or with h | h <;> simp [h] at hr hp
  · intro _ _ _ h
    exact ⟨h.tag.isTruthyAt, h.tag.isEmpty⟩
  · intro _ _ _ _ h
    exact ⟨h.headRef.isTruthyAt, h.headRef.isEmpty⟩
  · intro _ _ _ h
    exact h.branch.isEmpty

end Event

end JobDispatch
