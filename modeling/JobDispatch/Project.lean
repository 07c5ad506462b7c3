import JobDispatch.Event
import JobDispatch.Json.Reader

namespace JobDispatch

open Json (Reader Mismatch)

inductive Side
  | upstream
  | downstream
  deriving DecidableEq

namespace Side

def name : Side → String
  | .upstream => "upstream"
  | .downstream => "downstream"

def label : Side → String
  | .upstream => "Upstream"
  | .downstream => "Downstream"

def named? : String → Option Side
  | "upstream" => some .upstream
  | "downstream" => some .downstream
  | _ => none

def read : Reader Side := Reader.choice named?

def toJson (s : Side) : Json := .text s.name

end Side

structure Project where
  owner : String
  repo : String
  side : Side
  deriving DecidableEq

namespace Project

def of? (owner repo : String) (side : Side) : Option Project := do
  let owner ← nonempty? owner
  let repo ← nonempty? repo
  return ⟨owner, repo, side⟩

def path (p : Project) : String := p.owner ++ "/" ++ p.repo

def text (p : Project) : String := p.path ++ " (" ++ p.side.name ++ ")"

def defaultCoprProject (p : Project) : String := p.owner ++ "-" ++ p.repo

structure Draft where
  owner : Option String := none
  repo : Option String := none
  side : Option Side := none

def Draft.put (key : String) (o : Json.Origin) (d : Json.Document) (draft : Draft) :
    Except Mismatch Draft :=
  match key with
  | "namespace" => do return { draft with owner := ← Reader.fill key Reader.text o d draft.owner }
  | "repo" => do return { draft with repo := ← Reader.fill key Reader.text o d draft.repo }
  | "forge" => do return { draft with side := ← Reader.fill key Side.read o d draft.side }
  | _ => .ok draft

def Draft.finish (absent : String → Mismatch) (draft : Draft) : Except Mismatch Project := do
  let owner ← Reader.require "namespace" absent draft.owner
  let repo ← Reader.require "repo" absent draft.repo
  let side ← Reader.require "forge" absent draft.side
  return ⟨owner, repo, side⟩

def read : Reader Project :=
  Reader.record ⟨["namespace", "repo", "forge"], {}, Draft.put, Draft.finish⟩

def toJson (p : Project) : Json :=
  .object [("forge", p.side.toJson), ("namespace", .text p.owner), ("repo", .text p.repo)]

end Project

end JobDispatch
