import JobDispatch.Proofs.Answers
import JobDispatch.Proofs.Calls
import JobDispatch.Proofs.Metadata
import JobDispatch.Proofs.Origin

/-! Where the data of calls come from. The handlers read the event again, each by paths of its own,
and what they find there is what the event was recognized by. -/

namespace JobDispatch

variable {X : Extras} {σ : Type}

def JobConfig.NamesBranch (job : JobConfig) (branch : String) : Prop :=
  job.metadata.lookup "dist-git-branch" = some (.text branch) ∧ branch ≠ ""

def JobConfig.Targets (job : JobConfig) (branch : String) : Prop :=
  job.NamesBranch branch ∨ (¬ ∃ other, job.NamesBranch other) ∧ branch = "master"

lemma JobConfig.targets_distGitBranch (job : JobConfig) : job.Targets job.distGitBranch :=
  job.textOr_getD "dist-git-branch" "master"

inductive ForgeCall.Tells : Recognized → Side → ForgeCall → Prop
  | releaseConfig (owner repo tag : String) (url : Option String) :
      Tells (.release owner repo tag url) .upstream (.packageConfig ⟨owner, repo, .upstream⟩ tag)
  | pullRequestConfig (owner repo headRef : String) (number : UInt64) (url : Option String) :
      Tells (.pullRequest owner repo headRef number url) .upstream
        (.packageConfig ⟨owner, repo, .upstream⟩ headRef)
  | commitConfig (owner repo branch : String) :
      Tells (.distGitCommit owner repo branch) .downstream
        (.packageConfig ⟨owner, repo, .downstream⟩ branch)
  | taggedCommit (owner repo tag : String) (url : Option String) :
      Tells (.release owner repo tag url) .upstream (.taggedCommit ⟨owner, repo, .upstream⟩ tag)
  | onCommit (owner repo tag sha body : String) (url : Option String) :
      Tells (.release owner repo tag url) .upstream
        (.comment ⟨owner, repo, .upstream⟩ (.commit sha) body)
  | onPullRequest (owner repo headRef body : String) (number : UInt64) (url : Option String)
      (base : Project) :
      Tells (.pullRequest owner repo headRef number url) .upstream
        (.comment base (.pullRequest number) body)

inductive PackagingCall.Tells (config : ServiceConfig) (job : JobConfig) :
    Recognized → PackagingCall → Prop
  | proposeRelease {owner repo tag distGitBranch : String} (url : Option String)
      (package : PackageConfig) : job.Targets distGitBranch →
      Tells config job (.release owner repo tag url)
        (.proposeRelease package ⟨owner, repo, .upstream⟩ distGitBranch tag)
  | buildRelease {owner repo tag : String} {request : CoprBuildRequest} (url : Option String)
      (package : PackageConfig) : request.committish = tag →
      Tells config job (.release owner repo tag url)
        (.build package ⟨owner, repo, .upstream⟩ request)
  | checkPullRequest {owner repo headRef distGitBranch : String} {number : UInt64}
      (url : Option String) (package : PackageConfig) : number ≠ 0 → job.Targets distGitBranch →
      Tells config job (.pullRequest owner repo headRef number url)
        (.checkPullRequest package ⟨owner, repo, .upstream⟩ number distGitBranch)
  | buildPullRequest (owner repo headRef : String) (number : UInt64) (url : Option String)
      (package : PackageConfig) (request : CoprBuildRequest) :
      Tells config job (.pullRequest owner repo headRef number url)
        (.build package ⟨owner, repo, .upstream⟩ request)
  | sourceUrl (owner repo branch : String) (package : PackageConfig) :
      Tells config job (.distGitCommit owner repo branch)
        (.sourceUrl package ⟨owner, repo, .downstream⟩)
  | carryBack (owner repo branch : String) (package : PackageConfig) (upstream : Project) :
      Tells config job (.distGitCommit owner repo branch)
        (.carryBack package upstream branch config.upstreamBranch)

section Takes

variable {d : Dispatcher X} {e : Event} {r : Recognized} {package : PackageConfig}
  {job : JobConfig} {h : Handler X}

lemma Builtin.tells_packaging (hb : Builtin r.trigger job.job h) (hr : e.Describes r)
    {call : PackagingCall} {answer : Except PackagingError call.Result} {log : List Log.Record}
    (ht : (d.context (r.classified r.side package) e job).Takes job.job
      (.askedPackaging call answer log : Step X)) : call.Tells d.config job r := by
  generalize job.job = j at hb ht
  cases hr with
  | release hr _ =>
    have hb : Builtin .release j h := hb
    cases hb with
    | proposeDownstream =>
      cases ht with
      | proposed _ _ hv =>
        obtain rfl := (Event.text?_eq_some_iff.mp hv).eq hr.tag
        exact .proposeRelease _ _ job.targets_distGitBranch
    | buildRelease =>
      cases ht with
      | builtRelease cloneUrl chroots _ _ _ hv =>
        exact .buildRelease _ _ ((Event.text?_eq_some_iff.mp hv).eq hr.tag)
      | builtPullRequest _ _ _ _ _ ht => cases ht
  | pullRequest hr _ =>
    have hb : Builtin .pullRequest j h := hb
    cases hb with
    | checkDownstream =>
      cases ht with
      | checked _ _ hn =>
        have hn := (Event.natural?_eq_some_iff.mpr hr.number).symm.trans hn
        obtain rfl := Option.some.inj hn
        exact .checkPullRequest _ _ hr.number_ne_zero job.targets_distGitBranch
    | buildPullRequest =>
      cases ht with
      | builtRelease _ _ _ _ ht _ => cases ht
      | builtPullRequest _ _ _ _ _ _ => exact .buildPullRequest ..
  | distGitCommit hr _ _ =>
    have hb : Builtin .commit j h := hb
    cases hb with
    | syncFromDownstream =>
      cases ht with
      | located => exact .sourceUrl ..
      | carried _ _ _ _ hb =>
        obtain rfl := (Event.text?_eq_some_iff.mp hb).eq hr.branch
        exact .carryBack ..

lemma Builtin.tells_forge (hb : Builtin r.trigger job.job h) (hr : e.Describes r) {side : Side}
    {call : ForgeCall} {answer : Except ForgeError call.Result} {log : List Log.Record}
    (ht : (d.context (r.classified r.side package) e job).Takes job.job
      (.askedForge side call answer log : Step X)) : call.Tells r side := by
  generalize job.job = j at hb ht
  cases hr with
  | release hr _ =>
    cases ht with
    | tagged _ _ _ hv =>
      obtain rfl := (Event.text?_eq_some_iff.mp hv).eq hr.tag
      exact .taggedCommit ..
    | reportedRelease => exact .onCommit ..
    | reportedPullRequest _ _ _ _ ht _ => cases ht
  | pullRequest hr _ =>
    cases ht with
    | tagged _ _ ht _ => cases ht
    | reportedRelease _ _ _ _ ht => cases ht
    | reportedPullRequest _ _ _ _ _ hn =>
      have hn := (Event.natural?_eq_some_iff.mpr hr.number).symm.trans hn
      obtain rfl := Option.some.inj hn
      exact .onPullRequest ..
  | distGitCommit _ _ _ =>
    have hb : Builtin .commit j h := hb
    cases hb with
    | syncFromDownstream => cases ht

lemma Recognized.tells_configCall (r : Recognized) : (r.configCall r.side).Tells r r.side := by
  cases r with
  | release => exact .releaseConfig ..
  | pullRequest => exact .pullRequestConfig ..
  | distGitCommit => exact .commitConfig ..

end Takes

namespace Dispatcher

variable {d : Dispatcher X} {e : Event} {r : Recognized}

def ownKind : Answers where
  reach side x := ∀ kind, x = .ok kind → kind = side

lemma keep_ownKind {k : Collaborators X (StateM σ)}
    (hk : ∀ side f, (k.link side).Gives (.ok f) → f.kind = side) : k.Keep ownKind := by
  refine ⟨?_, fun _ _ _ _ _ => trivial, fun _ _ => trivial⟩
  rintro side (err | f) hx kind hkind
  · cases hkind
  · obtain rfl := Except.ok.inj hkind
    exact hk side f hx

theorem dispatch_tells (hd : Registry.standard.value = .ok d.registry)
    (hr : e.recognized.value = some r) (topic : Option String) {k : Collaborators X (StateM σ)}
    (hk : ∀ side f, (k.link side).Gives (.ok f) → f.kind = side) (s : σ) :
    let o := ((d.dispatch e topic).run.run k s).1
    let steps := (d.dispatch e topic).run.steps k s
    o.transcript = steps.flatMap Step.entries ∧
      (∀ side call answer log, .askedForge side call answer log ∈ steps → call.Tells r side) ∧
      ∀ before call answer log after, steps = before ++ .askedPackaging call answer log :: after →
        ∃ package fetched job earlier since,
          before = earlier ++ .logged (running (r.classified r.side package) job) :: since ∧
          .askedForge r.side (r.configCall r.side) (.ok package) fetched ∈ earlier ∧
          (∀ c other, .logged (running c other) ∉ since) ∧
          job ∈ package.jobs ∧ job.trigger = r.trigger ∧ call.Tells d.config job r := by
  intro o steps
  obtain ⟨hp, ht⟩ := (d.dispatch e topic).run.run_path k s
  have hallow := ((d.dispatch e topic).run.steps_allowed (keep_ownKind hk) s).1
  have hdesc : e.Describes r := (e.recognized_eq_some_iff r).mp hr
  have hkind : ∀ {kind}, Reported e r k.contacts steps kind → kind = r.side := by
    rintro kind ⟨rs, κ, rest, hx, hrs⟩
    refine hx.allowed (fun _ => (keep_ownKind hk).contact) (fun st hst => hallow st ?_) _ rfl
    change st ∈ steps
    rw [hrs]
    simp [hst]
  refine ⟨ht, ?_, ?_⟩
  · intro side call answer log hm
    obtain ⟨kind, hreported, hask⟩ := (path_dispatch hp).askedForge hd hr hm
    obtain rfl := hkind hreported
    rcases hask with ⟨rfl, rfl⟩ | ⟨package, job, h, hb, htakes⟩
    · exact r.tells_configCall
    · exact hb.tells_forge hdesc htakes
  · intro before call answer log after hsplit
    obtain ⟨kind, package, fetched, job, h, earlier, since, hreported, hbefore, hfetched, hsince,
      hm, hjt, hj, htrig, htakes⟩ := (path_dispatch hp).askedPackaging hd hr hsplit
    obtain rfl := hkind hreported
    have htells := (Registry.standard_builtin hd hj htrig).tells_packaging hdesc htakes
    exact ⟨package, fetched, job, earlier, since, hbefore, hfetched, hsince, hm, hjt, htells⟩

def opened : Event where
  payload := .object [
    ("action", .text "opened"),
    ("number", Json.ofNat 7),
    ("pull_request", .object [
      ("base", .object [
        ("repo", .object [
          ("name", .text "widget"),
          ("owner", .object [("login", .text "acme")])])]),
      ("head", .object [
        ("ref", .text "topic"),
        ("repo", .object [
          ("clone_url", .text "https://forge.example/fork/widget.git"),
          ("name", .text "widget"),
          ("owner", .object [("login", .text "fork")])]),
        ("sha", .text "9fceb02")])])]

def checkedOnBranch : PackageConfig where
  jobs := [⟨.checkDownstream, .pullRequest, [("dist-git-branch", .text "f40")]⟩,
    ⟨.coprBuild, .pullRequest, [("targets", .text "rawhide")]⟩]

theorem dispatch_tells_opened :
    let k : Collaborators Extras.none (StateM Unit) := .granting checkedOnBranch
    let steps := (standard.dispatch opened none).run.steps k ()
    let r : Recognized := .pullRequest "fork" "widget" "topic" 7 none
    Registry.standard.value = .ok (standard : Dispatcher Extras.none).registry ∧
      opened.recognized.value = some r ∧
      (∀ side f, (k.link side).Gives (.ok f) → f.kind = side) ∧
      calls steps =
        granted [.packageConfig .upstream, .checkPullRequest, .build, .comment .upstream] ∧
      ∀ side call answer log, .askedForge side call answer log ∈ steps → call.Tells r side := by
  intro k steps r
  have hd : Registry.standard.value = .ok (standard : Dispatcher Extras.none).registry :=
    Registry.standard_value
  have hr : opened.recognized.value = some r := by decide +kernel
  have hk : ∀ side f, (k.link side).Gives (.ok f) → f.kind = side := by
    rintro (_ | _) f hf <;> obtain rfl := Except.ok.inj hf <;> rfl
  obtain ⟨-, htells, -⟩ := dispatch_tells hd hr none hk ()
  exact ⟨hd, hr, hk, by decide +kernel, htells⟩

end Dispatcher

end JobDispatch
