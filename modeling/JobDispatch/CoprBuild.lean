import JobDispatch.Json.Reader

namespace JobDispatch

open Json (Reader Mismatch)

structure CoprBuildRequest where
  owner : String
  project : String
  committish : String
  cloneUrl : String
  chroots : List String
  deriving DecidableEq

namespace CoprBuildRequest

structure Draft where
  owner : Option String := none
  project : Option String := none
  committish : Option String := none
  cloneUrl : Option String := none
  chroots : Option (List String) := none

def Draft.put (key : String) (o : Json.Origin) (d : Json.Document) (draft : Draft) :
    Except Mismatch Draft :=
  match key with
  | "owner" => do return { draft with owner := ← Reader.fill key Reader.text o d draft.owner }
  | "project" => do return { draft with project := ← Reader.fill key Reader.text o d draft.project }
  | "committish" => do
    return { draft with committish := ← Reader.fill key Reader.text o d draft.committish }
  | "clone_url" => do
    return { draft with cloneUrl := ← Reader.fill key Reader.text o d draft.cloneUrl }
  | "chroots" => do
    return { draft with chroots := ← Reader.fill key (Reader.list Reader.text) o d draft.chroots }
  | _ => .ok draft

def Draft.finish (absent : String → Mismatch) (draft : Draft) :
    Except Mismatch CoprBuildRequest := do
  let owner ← Reader.require "owner" absent draft.owner
  let project ← Reader.require "project" absent draft.project
  let committish ← Reader.require "committish" absent draft.committish
  let cloneUrl ← Reader.require "clone_url" absent draft.cloneUrl
  let chroots ← Reader.require "chroots" absent draft.chroots
  return ⟨owner, project, committish, cloneUrl, chroots⟩

def read : Reader CoprBuildRequest :=
  Reader.record ⟨["owner", "project", "committish", "clone_url", "chroots"], {},
    Draft.put, Draft.finish⟩

def toJson (r : CoprBuildRequest) : Json :=
  .object [
    ("chroots", .array (r.chroots.map .text)),
    ("clone_url", .text r.cloneUrl),
    ("committish", .text r.committish),
    ("owner", .text r.owner),
    ("project", .text r.project)]

end CoprBuildRequest

structure CoprBuild where
  buildId : UInt64
  infoUrl : String
  deriving DecidableEq

namespace CoprBuild

structure Draft where
  buildId : Option UInt64 := none
  infoUrl : Option String := none

def Draft.put (key : String) (o : Json.Origin) (d : Json.Document) (draft : Draft) :
    Except Mismatch Draft :=
  match key with
  | "build_id" => do
    return { draft with buildId := ← Reader.fill key Reader.natural o d draft.buildId }
  | "info_url" => do
    return { draft with infoUrl := ← Reader.fill key Reader.text o d draft.infoUrl }
  | _ => .ok draft

def Draft.finish (absent : String → Mismatch) (draft : Draft) : Except Mismatch CoprBuild := do
  let buildId ← Reader.require "build_id" absent draft.buildId
  let infoUrl ← Reader.require "info_url" absent draft.infoUrl
  return ⟨buildId, infoUrl⟩

def read : Reader CoprBuild :=
  Reader.record ⟨["build_id", "info_url"], {}, Draft.put, Draft.finish⟩

def toJson (b : CoprBuild) : Json :=
  .object [("build_id", Json.ofNat b.buildId), ("info_url", .text b.infoUrl)]

end CoprBuild

inductive CommentTarget
  | commit (sha : String)
  | pullRequest (number : UInt64)
  deriving DecidableEq

namespace CommentTarget

inductive Kind
  | commit
  | pullRequest

def Kind.named? : String → Option Kind
  | "Commit" => some .commit
  | "PullRequest" => some .pullRequest
  | _ => none

def read : Reader CommentTarget :=
  Reader.tagged Kind.named? (fun _ => .error .wrongType) fun
    | .commit => fun o d => (Reader.text o d).map .commit
    | .pullRequest => fun o d => (Reader.natural o d).map .pullRequest

def toJson : CommentTarget → Json
  | .commit sha => .object [("Commit", .text sha)]
  | .pullRequest number => .object [("PullRequest", Json.ofNat number)]

end CommentTarget

end JobDispatch
