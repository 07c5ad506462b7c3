import JobDispatch.Json.Reader

namespace JobDispatch

open Json (Reader Mismatch)

inductive Trigger
  | release
  | pullRequest
  | commit
  deriving DecidableEq

namespace Trigger

def name : Trigger → String
  | .release => "release"
  | .pullRequest => "pull_request"
  | .commit => "commit"

def label : Trigger → String
  | .release => "Release"
  | .pullRequest => "PullRequest"
  | .commit => "Commit"

def named? : String → Option Trigger
  | "release" => some .release
  | "pull_request" => some .pullRequest
  | "commit" => some .commit
  | _ => none

def read : Reader Trigger := Reader.choice named?

def toJson (t : Trigger) : Json := .text t.name

end Trigger

inductive JobType
  | proposeDownstream
  | checkDownstream
  | syncFromDownstream
  | coprBuild
  | build
  deriving DecidableEq

namespace JobType

def all : List JobType :=
  [.proposeDownstream, .checkDownstream, .syncFromDownstream, .coprBuild, .build]

def name : JobType → String
  | .proposeDownstream => "propose_downstream"
  | .checkDownstream => "check_downstream"
  | .syncFromDownstream => "sync_from_downstream"
  | .coprBuild => "copr_build"
  | .build => "build"

def label : JobType → String
  | .proposeDownstream => "ProposeDownstream"
  | .checkDownstream => "CheckDownstream"
  | .syncFromDownstream => "SyncFromDownstream"
  | .coprBuild => "CoprBuild"
  | .build => "Build"

def named? : String → Option JobType
  | "propose_downstream" => some .proposeDownstream
  | "check_downstream" => some .checkDownstream
  | "sync_from_downstream" => some .syncFromDownstream
  | "copr_build" => some .coprBuild
  | "build" => some .build
  | _ => none

def read : Reader JobType := Reader.choice named?

def toJson (j : JobType) : Json := .text j.name

end JobType

structure JobConfig where
  job : JobType
  trigger : Trigger
  metadata : List (String × Json) := []

namespace JobConfig

def setMetadata (c : JobConfig) (key : String) (value : Json) : JobConfig :=
  { c with metadata := Json.insert key value c.metadata }

def text? (c : JobConfig) (key : String) : Option String :=
  match c.metadata.lookup key with
  | some (.text s) => if s.isEmpty then none else some s
  | _ => none

def texts (c : JobConfig) (key : String) : List String :=
  match c.metadata.lookup key with
  | some (.array items) => (items.filterMap Json.asText?).filter (!·.isEmpty)
  | some (.text s) => if s.isEmpty then [] else [s]
  | _ => []

def distGitBranch (c : JobConfig) : String :=
  (c.text? "dist-git-branch").getD "master"

structure Draft where
  job : Option JobType := none
  trigger : Option Trigger := none
  metadata : Option (List (String × Json)) := none

def Draft.put (key : String) (o : Json.Origin) (d : Json.Document) (draft : Draft) :
    Except Mismatch Draft :=
  match key with
  | "job" => do return { draft with job := ← Reader.fill key JobType.read o d draft.job }
  | "trigger" => do
    return { draft with trigger := ← Reader.fill key Trigger.read o d draft.trigger }
  | "metadata" => do
    return { draft with metadata := ← Reader.fill key Reader.members o d draft.metadata }
  | _ => .ok draft

def Draft.finish (absent : String → Mismatch) (draft : Draft) : Except Mismatch JobConfig := do
  let job ← Reader.require "job" absent draft.job
  let trigger ← Reader.require "trigger" absent draft.trigger
  return ⟨job, trigger, draft.metadata.getD []⟩

def read : Reader JobConfig :=
  Reader.record ⟨["job", "trigger", "metadata"], {}, Draft.put, Draft.finish⟩

def toJson (c : JobConfig) : Json :=
  .object [("job", c.job.toJson), ("metadata", .object c.metadata), ("trigger", c.trigger.toJson)]

end JobConfig

structure PackageConfig where
  jobs : List JobConfig := []
  upstreamProjectUrl : Option String := none
  downstreamPackageName : Option String := none
  specfilePath : Option String := none

namespace PackageConfig

def specfile? (p : PackageConfig) : Option String :=
  match p.specfilePath with
  | some path => some path
  | none => p.downstreamPackageName.map (· ++ ".spec")

def declaredFor (p : PackageConfig) (t : Trigger) : List JobConfig :=
  p.jobs.filter fun j => j.trigger = t

structure Draft where
  jobs : Option (List JobConfig) := none
  upstreamProjectUrl : Option (Option String) := none
  downstreamPackageName : Option (Option String) := none
  specfilePath : Option (Option String) := none

def Draft.put (key : String) (o : Json.Origin) (d : Json.Document) (draft : Draft) :
    Except Mismatch Draft :=
  let path : Reader (Option String) := Reader.optional Reader.text
  match key with
  | "jobs" => do
    return { draft with jobs := ← Reader.fill key (Reader.list JobConfig.read) o d draft.jobs }
  | "upstream_project_url" => do
    return { draft with upstreamProjectUrl := ← Reader.fill key path o d draft.upstreamProjectUrl }
  | "downstream_package_name" => do
    return { draft with
      downstreamPackageName := ← Reader.fill key path o d draft.downstreamPackageName }
  | "specfile_path" => do
    return { draft with specfilePath := ← Reader.fill key path o d draft.specfilePath }
  | _ => .ok draft

def Draft.finish (_absent : String → Mismatch) (draft : Draft) : Except Mismatch PackageConfig :=
  .ok ⟨draft.jobs.getD [], draft.upstreamProjectUrl.join, draft.downstreamPackageName.join,
    draft.specfilePath.join⟩

def read : Reader PackageConfig :=
  Reader.record ⟨["jobs", "upstream_project_url", "downstream_package_name", "specfile_path"], {},
    Draft.put, Draft.finish⟩

def toJson (p : PackageConfig) : Json :=
  .object [
    ("downstream_package_name", Json.ofOption .text p.downstreamPackageName),
    ("jobs", .array (p.jobs.map JobConfig.toJson)),
    ("specfile_path", Json.ofOption .text p.specfilePath),
    ("upstream_project_url", Json.ofOption .text p.upstreamProjectUrl)]

end PackageConfig

structure ServiceConfig where
  upstreamBranch : String := "master"

namespace ServiceConfig

structure Draft where
  upstreamBranch : Option String := none

def Draft.put (key : String) (o : Json.Origin) (d : Json.Document) (draft : Draft) :
    Except Mismatch Draft :=
  match key with
  | "upstream_branch" => do
    return { draft with upstreamBranch := ← Reader.fill key Reader.text o d draft.upstreamBranch }
  | _ => .ok draft

def Draft.finish (absent : String → Mismatch) (draft : Draft) : Except Mismatch ServiceConfig := do
  return ⟨← Reader.require "upstream_branch" absent draft.upstreamBranch⟩

def read : Reader ServiceConfig :=
  Reader.record ⟨["upstream_branch"], {}, Draft.put, Draft.finish⟩

def toJson (c : ServiceConfig) : Json :=
  .object [("upstream_branch", .text c.upstreamBranch)]

end ServiceConfig

end JobDispatch
