namespace JobDispatch

namespace Log

inductive Level
  | error
  | warn
  | info
  | debug
  deriving DecidableEq

def Level.name : Level → String
  | .error => "ERROR"
  | .warn => "WARN"
  | .info => "INFO"
  | .debug => "DEBUG"

def Level.rank : Level → Nat
  | .error => 1
  | .warn => 2
  | .info => 3
  | .debug => 4

inductive Part
  | recognition
  | dispatch
  | registry
  | proposeDownstream
  | checkDownstream
  | syncFromDownstream
  | coprBuild
  | listener
  | offline
  | session
  deriving DecidableEq

def Part.target : Part → String
  | .recognition => "jobs::classify"
  | .dispatch => "jobs::dispatcher"
  | .registry => "jobs::registry"
  | .proposeDownstream => "jobs::handlers::propose_downstream"
  | .checkDownstream => "jobs::handlers::check_downstream"
  | .syncFromDownstream => "jobs::handlers::sync_from_downstream"
  | .coprBuild => "jobs::handlers::copr_build"
  | .listener => "listener"
  | .offline => "steve::offline"
  | .session => "steve"

/-- A record of a log. Of some fields the text is left to the writer of the log: the time of day,
and the words of a parser of texts. -/
structure Record where
  level : Level
  part : Part
  message : String
  fields : List (String × String) := []
  withheld : List String := []
  deriving DecidableEq

def Record.error (part : Part) (message : String) (fields : List (String × String) := []) :
    Record :=
  ⟨.error, part, message, fields, []⟩

def Record.warn (part : Part) (message : String) (fields : List (String × String) := []) :
    Record :=
  ⟨.warn, part, message, fields, []⟩

def Record.info (part : Part) (message : String) (fields : List (String × String) := []) :
    Record :=
  ⟨.info, part, message, fields, []⟩

def Record.debug (part : Part) (message : String) (fields : List (String × String) := []) :
    Record :=
  ⟨.debug, part, message, fields, []⟩

def Record.names (r : Record) : List String :=
  "message" :: r.fields.map (·.1) ++ r.withheld

end Log

structure Logged (α : Type) where
  value : α
  log : List Log.Record := []

namespace Logged

variable {α β : Type}

def map (f : α → β) (x : Logged α) : Logged β := ⟨f x.value, x.log⟩

/-- The second alternative is consulted, and logs, only where the first gives nothing. -/
def orElse (x : Logged (Option α)) (y : Unit → Logged (Option α)) : Logged (Option α) :=
  match x.value with
  | some _ => x
  | none => ⟨(y ()).value, x.log ++ (y ()).log⟩

end Logged

end JobDispatch
