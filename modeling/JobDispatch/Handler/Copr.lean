import JobDispatch.Handler

/-! The handler that submits a build for a release or a pull request and reports it: on the tagged
commit of a release, and on the pull request, which belongs to the base repository. -/

namespace JobDispatch.Handler

open Log.Record

variable {X : Extras}

def buildRequest (c : Context) (committish cloneUrl : String) (chroots : List String) :
    CoprBuildRequest where
  owner := (c.job.text? "owner").getD "packit"
  project := (c.job.text? "project").getD c.project.defaultCoprProject
  committish := committish
  cloneUrl := cloneUrl
  chroots := chroots

def submit (c : Context) (committish cloneUrl : String) : Job X CoprBuild := do
  let chroots := c.job.texts "targets"
  if chroots.isEmpty then
    Job.fail (.configuration "'targets' value is required in package config for copr_build job")
  else
    let request := buildRequest c committish cloneUrl chroots
    Job.log (info .coprBuild "Submitting copr build"
      [("owner", request.owner), ("copr_project", request.project),
        ("committish", request.committish)])
    let build ← Job.askPackaging (.build c.package c.project request)
    Job.log (info .coprBuild "Copr build submitted"
      [("build_id", toString build.buildId), ("info_url", build.infoUrl)])
    return build

def releaseComment (b : CoprBuild) : String :=
  "Copr build (ID " ++ toString b.buildId ++ ") triggered\nMore info: " ++ b.infoUrl

def pullRequestComment (b : CoprBuild) : String :=
  "Triggered copr build (ID:" ++ toString b.buildId ++ ").\nMore info: " ++ b.infoUrl

def gitRef (value : String) (path : List String) : Job X String :=
  match nonempty? value with
  | some ref => pure ref
  | none => Job.fail (.missingEventField path)

def baseProject (owner repo : String) (side : Side) : Job X Project :=
  match Project.of? owner repo side with
  | some base => pure base
  | none => Job.fail (.missingEventField ["pull_request", "base", "repo"])

def buildRelease (c : Context) : Job X Unit := do
  let cloneUrl ← c.requireText ["repository", "clone_url"]
  let tag ← c.requireText ["release", "tag_name"]
  let _ ← Job.reach .upstream
  let committish ← gitRef tag ["release", "tag_name"]
  let build ← submit c committish cloneUrl
  let sha ← Job.askForge .upstream (.taggedCommit c.project tag)
  Job.askForge .upstream (.comment c.project (.commit sha) (releaseComment build))

def buildPullRequest (c : Context) : Job X Unit := do
  let cloneUrl ← c.requireText ["pull_request", "head", "repo", "clone_url"]
  let headSha ← c.requireText ["pull_request", "head", "sha"]
  let number ← c.requireNatural ["number"]
  let owner ← c.requireText ["pull_request", "base", "repo", "owner", "login"]
  let repo ← c.requireText ["pull_request", "base", "repo", "name"]
  let kind ← Job.reach .upstream
  let base ← baseProject owner repo kind
  let committish ← gitRef headSha ["pull_request", "head", "sha"]
  let build ← submit c committish cloneUrl
  Job.log (info .coprBuild "Reporting copr build on pull request"
    [("base_project", base.text), ("pr", toString number), ("build_id", toString build.buildId)])
  Job.askForge .upstream (.comment base (.pullRequest number) (pullRequestComment build))

def coprBuild : Handler X where
  job := .coprBuild
  triggers := [.pullRequest, .release]
  run c :=
    match c.trigger with
    | .pullRequest => buildPullRequest c
    | .release => buildRelease c
    | .commit =>
      Job.log (warn .coprBuild "Copr builds are not run for commit triggers"
        [("project", c.project.text)])

end JobDispatch.Handler
