import JobDispatch.Program
import JobDispatch.Recognition
import JobDispatch.Text.Quoted

namespace JobDispatch

open Text

structure Context where
  config : ServiceConfig
  package : PackageConfig
  event : Event
  project : Project
  job : JobConfig
  trigger : Trigger

namespace Context

variable {X : Extras}

def requireText (c : Context) (path : List String) : Job X String :=
  match c.event.text? path with
  | some s => pure s
  | none => Job.fail (.missingEventField path)

def requireNatural (c : Context) (path : List String) : Job X UInt64 :=
  match c.event.natural? path with
  | some n => pure n
  | none => Job.fail (.missingEventField path)

def inspect (c : Context) : String :=
  "JobContext \x7b project: ProjectHandle \x7b namespace: Namespace(" ++ quoted c.project.owner ++
    "), repo: RepoName(" ++ quoted c.project.repo ++ "), forge: " ++ c.project.side.label ++
    " \x7d, job: " ++ c.job.job.label ++ ", trigger: " ++ c.trigger.label ++ ", .. \x7d"

end Context

structure Handler (X : Extras) where
  job : JobType
  triggers : List Trigger
  topic : Option String := none
  run : Context → Job X Unit

end JobDispatch
