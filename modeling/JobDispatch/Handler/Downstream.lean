import JobDispatch.Handler
import JobDispatch.Project.Address

namespace JobDispatch.Handler

open Log.Record

variable {X : Extras}

def proposeDownstream : Handler X where
  job := .proposeDownstream
  triggers := [.release]
  run c := do
    let version ← c.requireText ["release", "tag_name"]
    let branch := c.job.distGitBranch
    Job.log (info .proposeDownstream "Proposing release downstream"
      [("project", c.project.text), ("version", version), ("dist_git_branch", branch)])
    Job.askPackaging (.proposeRelease c.package c.project branch version)

def checkDownstream : Handler X where
  job := .checkDownstream
  triggers := [.pullRequest]
  run c := do
    let number ← c.requireNatural ["number"]
    let branch := c.job.distGitBranch
    Job.log (info .checkDownstream "Checking pull request downstream"
      [("project", c.project.text), ("pr", toString number), ("dist_git_branch", branch)])
    Job.askPackaging (.checkPullRequest c.package c.project number branch)

def sourceOf (url : Option String) : Job X (String × String) :=
  match url with
  | none =>
    Job.fail (.configuration
      "URL in specfile is not set; the upstream project location is unknown")
  | some url =>
    match Address.ownerAndRepo? url with
    | none => Job.fail (.configuration ("Cannot derive the upstream project from '" ++ url ++ "'"))
    | some source => pure source

def syncFromDownstream : Handler X where
  job := .syncFromDownstream
  triggers := [.commit]
  topic := some distGitTopic
  run c := do
    let branch ← c.requireText ["msg", "commit", "branch"]
    let url ← Job.askPackaging (.sourceUrl c.package c.project)
    let (owner, repo) ← sourceOf url
    let upstream : Project := ⟨owner, repo, ← Job.reach .upstream⟩
    Job.log (info .syncFromDownstream "Syncing downstream commits to upstream"
      [("downstream", c.project.text), ("upstream", upstream.text), ("dist_git_branch", branch),
        ("upstream_branch", c.config.upstreamBranch)])
    let package := { c.package with upstreamProjectUrl := url }
    Job.askPackaging (.carryBack package upstream branch c.config.upstreamBranch)

end JobDispatch.Handler
