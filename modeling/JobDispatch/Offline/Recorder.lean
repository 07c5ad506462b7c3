import JobDispatch.Files
import JobDispatch.Offline.SpecFile
import JobDispatch.Run

/-! A packaging service that logs what it is asked and numbers the builds. Spec files are read from
a directory; where there is none, the configured address stands in for theirs. -/

namespace JobDispatch

open Log.Record Text

structure Recorder where
  specRoot : String

namespace Recorder

variable {m : Type → Type} [Monad m]

def specPath (r : Recorder) (p : Project) (specfile : String) : String :=
  joinPath (joinPath (joinPath r.specRoot p.owner) p.repo) specfile

def urlOf (package : PackageConfig) (path : String) : Except FileError String →
    Logged (Except PackagingError (Option String))
  | .ok text => ⟨.ok (SpecFile.url? text), []⟩
  | .error .missing =>
    ⟨.ok package.upstreamProjectUrl, [debug .offline "Spec file not found" [("path", path)]]⟩
  | .error e => ⟨.error (.operationFailed "read spec file" ("'" ++ path ++ "': " ++ e.message)), []⟩

def infoUrl (request : CoprBuildRequest) (id : UInt64) : String :=
  "offline://copr/" ++ request.owner ++ "/" ++ request.project ++ "/build/" ++ toString id

def buildNote (p : Project) (request : CoprBuildRequest) (id : UInt64) : Log.Record :=
  info .offline "Recorded copr build"
    [("project", p.path), ("owner", request.owner), ("copr_project", request.project),
      ("committish", request.committish), ("chroots", quotedList request.chroots),
      ("build_id", toString id)]

/-- Answers a call. The state is the number of the next build. -/
def ask (files : Files m) (r : Recorder) :
    (call : PackagingCall) → StateT UInt64 m (Logged (Except PackagingError call.Result))
  | .sourceUrl package p =>
    match package.specfile? with
    | none =>
      return ⟨.ok package.upstreamProjectUrl,
        [debug .offline "No spec file configured" [("project", p.path)]]⟩
    | some specfile => do
      let path := r.specPath p specfile
      return urlOf package path (← files.readText path)
  | .carryBack _ p distGitBranch upstreamBranch =>
    return ⟨.ok (), [info .offline "Recorded sync from downstream"
      [("upstream", p.path), ("dist_git_branch", distGitBranch),
        ("upstream_branch", upstreamBranch)]]⟩
  | .checkPullRequest _ p number distGitBranch =>
    return ⟨.ok (), [info .offline "Recorded pull request sync"
      [("upstream", p.path), ("pr", toString number), ("dist_git_branch", distGitBranch)]]⟩
  | .proposeRelease _ p distGitBranch version =>
    return ⟨.ok (), [info .offline "Recorded release sync"
      [("upstream", p.path), ("dist_git_branch", distGitBranch), ("version", version)]]⟩
  | .build _ p request => do
    let id ← get
    set (id + 1)
    return ⟨.ok ⟨id, infoUrl request id⟩, [buildNote p request id]⟩

def packaging (files : Files m) (r : Recorder) : Packaging (StateT UInt64 m) :=
  ⟨r.ask files⟩

end Recorder

end JobDispatch
