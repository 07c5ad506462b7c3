import JobDispatch.Proofs.Calls
import JobDispatch.Proofs.Metadata
import JobDispatch.Proofs.MissingField
import JobDispatch.Proofs.Provenance

namespace JobDispatch

variable {X : Extras} {σ : Type}

inductive BuildSource
  | release (cloneUrl tag : String)
  | pullRequest (cloneUrl sha : String) (number : UInt64) (owner repo : String)

namespace BuildSource

def committish : BuildSource → String
  | .release _ tag => tag
  | .pullRequest _ sha _ _ _ => sha

def cloneUrl : BuildSource → String
  | .release url _ => url
  | .pullRequest url _ _ _ _ => url

end BuildSource

def Handler.buildFields : Trigger → List (List String)
  | .release => [["repository", "clone_url"], ["release", "tag_name"]]
  | .pullRequest => pullRequestFields
  | .commit => []

namespace Context

inductive Sourced (c : Context) : BuildSource → Prop
  | release {cloneUrl tag : String} : c.trigger = .release →
      c.event.HasText ["repository", "clone_url"] cloneUrl →
      c.event.HasText ["release", "tag_name"] tag → Sourced c (.release cloneUrl tag)
  | pullRequest {cloneUrl sha owner repo : String} {number : UInt64} : c.trigger = .pullRequest →
      c.event.HasText ["pull_request", "head", "repo", "clone_url"] cloneUrl →
      c.event.HasText ["pull_request", "head", "sha"] sha →
      c.event.payload.at? ["number"] = some (.number (.natural number)) →
      c.event.HasText ["pull_request", "base", "repo", "owner", "login"] owner →
      c.event.HasText ["pull_request", "base", "repo", "name"] repo →
      Sourced c (.pullRequest cloneUrl sha number owner repo)

inductive Lacks (c : Context) : List String → Prop
  | text {path : List String} : path ∈ Handler.buildFields c.trigger →
      (¬ ∃ s, c.event.HasText path s) → Lacks c path
  | number : c.trigger = .pullRequest →
      (¬ ∃ n, c.event.payload.at? ["number"] = some (.number (.natural n))) → Lacks c ["number"]

structure Requests (c : Context) (src : BuildSource) (request : CoprBuildRequest) : Prop where
  owner : c.job.TextOr "owner" "packit" request.owner
  project : c.job.TextOr "project" (c.project.owner ++ "-" ++ c.project.repo) request.project
  committish : request.committish = src.committish
  cloneUrl : request.cloneUrl = src.cloneUrl
  chroots : c.job.Lists "targets" request.chroots
  chroots_ne_nil : request.chroots ≠ []

inductive Submits (c : Context) (src : BuildSource) :
    List (Step X) → Except JobError CoprBuild → Prop
  | untargeted : c.job.Lists "targets" [] →
      Submits c src [] (.error (.configuration
        "'targets' value is required in package config for copr_build job"))
  | refused {request : CoprBuildRequest} {fields : List (String × String)}
      (err : PackagingError) (log : List Log.Record) : c.Requests src request →
      Submits c src
        [.logged (.info .coprBuild "Submitting copr build" fields),
          .askedPackaging (.build c.package c.project request) (.error err) log]
        (.error (.packaging err))
  | submitted {request : CoprBuildRequest} {fields fields' : List (String × String)}
      (build : CoprBuild) (log : List Log.Record) : c.Requests src request →
      Submits c src
        [.logged (.info .coprBuild "Submitting copr build" fields),
          .askedPackaging (.build c.package c.project request) (.ok build) log,
          .logged (.info .coprBuild "Copr build submitted" fields')]
        (.ok build)

inductive Reports (c : Context) (kind : Side) (build : CoprBuild) :
    BuildSource → List (Step X) → Except JobError Unit → Prop
  | untagged {cloneUrl tag : String} (err : ForgeError) (log : List Log.Record) :
      Reports c kind build (.release cloneUrl tag)
        [.askedForge .upstream (.taggedCommit c.project tag) (.error err) log]
        (.error (.forge err))
  | onCommit {cloneUrl tag : String} (sha : String) (log : List Log.Record)
      (answer : Except ForgeError Unit) (log' : List Log.Record) :
      Reports c kind build (.release cloneUrl tag)
        [.askedForge .upstream (.taggedCommit c.project tag) (.ok sha) log,
          .askedForge .upstream
            (.comment c.project (.commit sha)
              ("Copr build (ID " ++ toString build.buildId ++ ") triggered\nMore info: " ++
                build.infoUrl))
            answer log']
        (answer.mapError .forge)
  | onPullRequest {cloneUrl sha owner repo : String} {number : UInt64}
      {fields : List (String × String)} (answer : Except ForgeError Unit)
      (log : List Log.Record) :
      Reports c kind build (.pullRequest cloneUrl sha number owner repo)
        [.logged (.info .coprBuild "Reporting copr build on pull request" fields),
          .askedForge .upstream
            (.comment ⟨owner, repo, kind⟩ (.pullRequest number)
              ("Triggered copr build (ID:" ++ toString build.buildId ++ ").\nMore info: " ++
                build.infoUrl))
            answer log]
        (answer.mapError .forge)

inductive Builds (c : Context) (κ : Contacts) :
    List (Step X) → Except JobError Unit → Contacts → Prop
  | lacking {path : List String} : c.Lacks path →
      Builds c κ [] (.error (.missingEventField path)) κ
  | unreached {src : BuildSource} {rs : List (Step X)} {err : ForgeError} {κ' : Contacts} :
      c.Sourced src → Reaches κ .upstream rs (.error err) κ' →
      Builds c κ rs (.error (.forge err)) κ'
  | unsubmitted {src : BuildSource} {kind : Side} {rs ss : List (Step X)} {err : JobError}
      {κ' : Contacts} : c.Sourced src → Reaches κ .upstream rs (.ok kind) κ' →
      c.Submits src ss (.error err) → Builds c κ (rs ++ ss) (.error err) κ'
  | reported {src : BuildSource} {kind : Side} {build : CoprBuild} {rs ss ss' : List (Step X)}
      {r : Except JobError Unit} {κ' : Contacts} : c.Sourced src →
      Reaches κ .upstream rs (.ok kind) κ' → c.Submits src ss (.ok build) →
      c.Reports kind build src ss' r → Builds c κ (rs ++ (ss ++ ss')) r κ'

variable {c : Context} {src : BuildSource} {ss : List (Step X)}

lemma Submits.calls_eq {r : Except JobError CoprBuild} (h : c.Submits src ss r) :
    calls ss = [] ∨
      (∃ request, c.Requests src request) ∧ calls ss = [⟨.build, r.isOk⟩] := by
  cases h with
  | untargeted => exact .inl rfl
  | refused err log hreq => exact .inr ⟨⟨_, hreq⟩, rfl⟩
  | submitted build log hreq => exact .inr ⟨⟨_, hreq⟩, rfl⟩

lemma Submits.calls_ok {build : CoprBuild} (h : c.Submits src ss (.ok build)) :
    (∃ request, c.Requests src request) ∧ calls ss = [⟨.build, true⟩] := by
  cases h with
  | submitted build log hreq => exact ⟨⟨_, hreq⟩, rfl⟩

lemma Reports.countP_build {kind : Side} {build : CoprBuild} {r : Except JobError Unit}
    (h : c.Reports kind build src ss r) :
    (calls ss).countP (fun call => call.kind = .build) = 0 := by
  cases h <;> rfl

variable {κ κ' : Contacts} {r : Except JobError Unit}

lemma Builds.countP_build_le (h : c.Builds κ ss r κ') :
    (calls ss).countP (fun call => call.kind = .build) ≤ 1 := by
  cases h with
  | lacking => exact Nat.zero_le 1
  | unreached _ hr =>
    rw [hr.calls_eq_nil]
    exact Nat.zero_le 1
  | unsubmitted _ hr hs =>
    rw [calls_append, hr.calls_eq_nil, List.nil_append]
    rcases hs.calls_eq with hc | ⟨-, hc⟩ <;> simp [hc]
  | reported _ hr hs hrep =>
    rw [calls_append, calls_append, hr.calls_eq_nil, hs.calls_ok.2, List.nil_append,
      List.countP_append, hrep.countP_build]
    decide

lemma Builds.checked (h : c.Builds κ ss r κ') (hc : calls ss ≠ []) :
    (∃ src, c.Sourced src ∧ ∃ request, c.Requests src request) ∧
      ∃ kind, κ' .upstream = some kind := by
  cases h with
  | lacking => exact absurd rfl hc
  | unreached _ hr => exact absurd hr.calls_eq_nil hc
  | unsubmitted hsrc hr hs =>
    rcases hs.calls_eq with hn | ⟨hreq, -⟩
    · rw [calls_append, hr.calls_eq_nil, hn] at hc
      exact absurd rfl hc
    · exact ⟨⟨_, hsrc, hreq⟩, _, hr.contact⟩
  | reported hsrc hr hs _ => exact ⟨⟨_, hsrc, hs.calls_ok.1⟩, _, hr.contact⟩

end Context

namespace Handler

open Job Context Dispatcher

variable {c : Context} {κ κ' : Contacts} {ss : List (Step X)}

lemma path_requireText_bind {α : Type} {path : List String} {f : String → Job X α}
    {r : Except JobError α} (h : Program.Path κ (c.requireText path >>= f).run ss r κ') :
    ((¬ ∃ s, c.event.HasText path s) ∧ ss = [] ∧ r = .error (.missingEventField path) ∧
        κ' = κ) ∨
      ∃ s, c.event.HasText path s ∧ Program.Path κ (f s).run ss r κ' := by
  by_cases hs : ∃ s, c.event.HasText path s
  · obtain ⟨s, hs⟩ := hs
    rw [requireText_of_hasText hs, pure_bind] at h
    exact .inr ⟨s, hs, h⟩
  · rw [requireText_of_missing hs, fail_bind] at h
    exact .inl ⟨hs, path_fail.mp h⟩

lemma path_requireNatural_bind {α : Type} {path : List String} {f : UInt64 → Job X α}
    {r : Except JobError α} (h : Program.Path κ (c.requireNatural path >>= f).run ss r κ') :
    ((¬ ∃ n, c.event.payload.at? path = some (.number (.natural n))) ∧ ss = [] ∧
        r = .error (.missingEventField path) ∧ κ' = κ) ∨
      ∃ n, c.event.payload.at? path = some (.number (.natural n)) ∧
        Program.Path κ (f n).run ss r κ' := by
  rw [requireNatural] at h
  cases hn : c.event.natural? path with
  | none =>
    rw [hn] at h
    refine .inl ⟨?_, path_fail.mp h⟩
    rintro ⟨n, hn'⟩
    simp [Event.natural?_eq_some_iff.mpr hn'] at hn
  | some n =>
    simp only [hn, pure_bind] at h
    exact .inr ⟨n, Event.natural?_eq_some_iff.mp hn, h⟩

lemma requests_buildRequest (src : BuildSource) (ht : c.job.texts "targets" ≠ []) :
    c.Requests src (buildRequest c src.committish src.cloneUrl (c.job.texts "targets")) :=
  ⟨c.job.textOr_getD .., c.job.textOr_getD .., rfl, rfl, c.job.lists_texts _, ht⟩

lemma submits_of_path {src : BuildSource} {r : Except JobError CoprBuild}
    (h : Program.Path κ (submit c src.committish src.cloneUrl).run ss r κ') :
    c.Submits src ss r ∧ κ' = κ := by
  by_cases ht : c.job.texts "targets" = []
  · simp only [submit, ht, List.isEmpty_nil] at h
    obtain ⟨rfl, rfl, rfl⟩ := path_fail.mp h
    exact ⟨.untargeted (ht ▸ c.job.lists_texts _), rfl⟩
  have hreq := requests_buildRequest src ht
  simp only [submit, List.isEmpty_iff, ht] at h
  obtain ⟨ss₁, rfl, h₁⟩ := path_log_bind.mp h
  rcases path_askPackaging_bind.mp h₁ with ⟨err, log, rfl, rfl, rfl⟩ | ⟨build, log, ss₂, rfl, h₂⟩
  · exact ⟨.refused err log hreq, rfl⟩
  obtain ⟨ss₃, rfl, h₃⟩ := path_log_bind.mp h₂
  obtain ⟨rfl, rfl, rfl⟩ := path_pure.mp h₃
  exact ⟨.submitted build log hreq, rfl⟩

lemma builds_of_submit {src : BuildSource} {kind : Side} {rs : List (Step X)} {κ₁ : Contacts}
    {f : CoprBuild → Job X Unit} {r : Except JobError Unit} (hsrc : c.Sourced src)
    (hr : Reaches κ .upstream rs (.ok kind) κ₁)
    (h : Program.Path κ₁ (submit c src.committish src.cloneUrl >>= f).run ss r κ')
    (hf : ∀ build ss', Program.Path κ₁ (f build).run ss' r κ' →
      c.Reports kind build src ss' r ∧ κ' = κ₁) :
    c.Builds κ (rs ++ ss) r κ' := by
  rcases path_bind.mp h with ⟨err, rfl, h₁⟩ | ⟨build, κ₂, ss₁, ss₂, rfl, h₁, h₂⟩
  · obtain ⟨hs, rfl⟩ := submits_of_path h₁
    exact .unsubmitted hsrc hr hs
  · obtain ⟨hs, rfl⟩ := submits_of_path h₁
    obtain ⟨hrep, rfl⟩ := hf build ss₂ h₂
    exact .reported hsrc hr hs hrep

lemma builds_of_buildRelease {r : Except JobError Unit} (ht : c.trigger = .release)
    (h : Program.Path κ (buildRelease c).run ss r κ') : c.Builds κ ss r κ' := by
  rw [buildRelease_eq] at h
  rcases path_requireText_bind h with ⟨hn, rfl, rfl, rfl⟩ | ⟨cloneUrl, hu, h₁⟩
  · exact .lacking (.text (by simp [buildFields, ht]) hn)
  rcases path_requireText_bind h₁ with ⟨hn, rfl, rfl, rfl⟩ | ⟨tag, htag, h₂⟩
  · exact .lacking (.text (by simp [buildFields, ht]) hn)
  have hsrc : c.Sourced (.release cloneUrl tag) := .release ht hu htag
  rcases path_reach_bind.mp h₂ with ⟨err, hr, rfl⟩ | ⟨kind, κ₁, rs, ss₁, rfl, hr, h₃⟩
  · exact .unreached hsrc hr
  refine builds_of_submit hsrc hr h₃ fun build ss₂ h₄ => ?_
  -- The forge is in contact by now, so that no attempt comes before what it is asked.
  rcases path_askForge_bind_of_contact hr.contact h₄ with
    ⟨err, log, rfl, rfl, rfl⟩ | ⟨sha, log, ss₃, rfl, h₅⟩
  · exact ⟨.untagged err log, rfl⟩
  obtain ⟨rfl, answer, log', rfl, rfl⟩ := path_askForge_of_contact hr.contact h₅
  exact ⟨.onCommit sha log answer log', rfl⟩

lemma builds_of_buildPullRequest {r : Except JobError Unit} (ht : c.trigger = .pullRequest)
    (h : Program.Path κ (buildPullRequest c).run ss r κ') : c.Builds κ ss r κ' := by
  rw [buildPullRequest_eq] at h
  rcases path_requireText_bind h with ⟨hn, rfl, rfl, rfl⟩ | ⟨cloneUrl, hu, h₁⟩
  · exact .lacking (.text (by simp [buildFields, pullRequestFields, ht]) hn)
  rcases path_requireText_bind h₁ with ⟨hn, rfl, rfl, rfl⟩ | ⟨sha, hs, h₂⟩
  · exact .lacking (.text (by simp [buildFields, pullRequestFields, ht]) hn)
  rcases path_requireNatural_bind h₂ with ⟨hn, rfl, rfl, rfl⟩ | ⟨number, hnum, h₃⟩
  · exact .lacking (.number ht hn)
  rcases path_requireText_bind h₃ with ⟨hn, rfl, rfl, rfl⟩ | ⟨owner, ho, h₄⟩
  · exact .lacking (.text (by simp [buildFields, pullRequestFields, ht]) hn)
  rcases path_requireText_bind h₄ with ⟨hn, rfl, rfl, rfl⟩ | ⟨repo, hrepo, h₅⟩
  · exact .lacking (.text (by simp [buildFields, pullRequestFields, ht]) hn)
  have hsrc : c.Sourced (.pullRequest cloneUrl sha number owner repo) :=
    .pullRequest ht hu hs hnum ho hrepo
  rcases path_reach_bind.mp h₅ with ⟨err, hr, rfl⟩ | ⟨kind, κ₁, rs, ss₁, rfl, hr, h₆⟩
  · exact .unreached hsrc hr
  refine builds_of_submit hsrc hr h₆ fun build ss₂ h₇ => ?_
  obtain ⟨ss₃, rfl, h₈⟩ := path_log_bind.mp h₇
  obtain ⟨rfl, answer, log, rfl, rfl⟩ := path_askForge_of_contact hr.contact h₈
  exact ⟨.onPullRequest answer log, rfl⟩

lemma builds_of_path {r : Except JobError Unit}
    (ht : c.trigger = .release ∨ c.trigger = .pullRequest)
    (h : Program.Path κ (coprBuild.run c).run ss r κ') : c.Builds κ ss r κ' := by
  rcases ht with ht | ht
  · simp only [coprBuild, ht] at h
    exact builds_of_buildRelease ht h
  · simp only [coprBuild, ht] at h
    exact builds_of_buildPullRequest ht h

theorem coprBuild_builds {c : Context} (ht : c.trigger = .release ∨ c.trigger = .pullRequest)
    (k : Collaborators X (StateM σ)) (s : σ) :
    let o := ((coprBuild.run c).run.run k s).1
    let steps := (coprBuild.run c).run.steps k s
    o.transcript = steps.flatMap Step.entries ∧
      c.Builds k.contacts steps o.value o.collaborators.contacts ∧
      (calls steps).countP (fun call => call.kind = .build) ≤ 1 ∧
      (calls steps ≠ [] →
        (∃ src, c.Sourced src ∧ ∃ request, c.Requests src request) ∧
          ∃ kind, o.collaborators.contacts .upstream = some kind) := by
  intro o steps
  obtain ⟨hp, htr⟩ := (coprBuild.run c).run.run_path k s
  have hb : c.Builds k.contacts steps o.value o.collaborators.contacts := builds_of_path ht hp
  exact ⟨htr, hb, hb.countP_build_le, hb.checked⟩

theorem coprBuild_builds_opened :
    let k : Collaborators Extras.none (StateM Unit) := .granting {}
    let job : JobConfig := ⟨.coprBuild, .pullRequest,
      [("targets", .array [.text "rawhide", .null, .text "", .text "f40", .text "rawhide"])]⟩
    let c : Context := ⟨{}, {}, opened, ⟨"fork", "widget", .upstream⟩, job, .pullRequest⟩
    let o := ((coprBuild.run c).run.run k ()).1
    let steps := (coprBuild.run c).run.steps k ()
    (c.trigger = .release ∨ c.trigger = .pullRequest) ∧
      calls steps = granted [.build, .comment .upstream] ∧
      c.Builds k.contacts steps o.value o.collaborators.contacts ∧
      ∃ src, c.Sourced src ∧ ∃ request, c.Requests src request := by
  intro k job c o steps
  have ht : c.trigger = .release ∨ c.trigger = .pullRequest := .inr rfl
  have hc : calls steps = granted [.build, .comment .upstream] := by decide +kernel
  obtain ⟨-, hb, -, hchecked⟩ := coprBuild_builds ht k ()
  have hne : calls steps ≠ [] := by simp [hc, granted]
  exact ⟨ht, hc, hb, (hchecked hne).1⟩

end Handler

end JobDispatch
