import JobDispatch.PackageConfig
import JobDispatch.Project

namespace JobDispatch

inductive ForgeError
  | configNotFound (project ref : String)
  | invalidConfig (project reason : String)
  | tagNotFound (project tag : String)
  | connection (side : Side) (reason : String)
  | request (reason : String)
  deriving DecidableEq

def ForgeError.message : ForgeError → String
  | .configNotFound project ref =>
    "No package configuration found in " ++ project ++ " at '" ++ ref ++ "'"
  | .invalidConfig project reason =>
    "Invalid package configuration in " ++ project ++ ": " ++ reason
  | .tagNotFound project tag => "Tag '" ++ tag ++ "' not found in " ++ project
  | .connection side reason => "Could not connect to the " ++ side.name ++ " forge: " ++ reason
  | .request reason => "Forge request failed: " ++ reason

inductive PackagingError
  | operationFailed (operation reason : String)
  | buildFailed (reason : String)
  deriving DecidableEq

def PackagingError.message : PackagingError → String
  | .operationFailed operation reason => operation ++ " failed: " ++ reason
  | .buildFailed reason => "Build submission failed: " ++ reason

inductive JobError
  | configuration (reason : String)
  | missingEventField (path : List String)
  | forge (e : ForgeError)
  | packaging (e : PackagingError)
  deriving DecidableEq

def JobError.message : JobError → String
  | .configuration reason => "Configuration error: " ++ reason
  | .missingEventField path =>
    "Event payload has no value at '" ++ String.intercalate "." path ++ "'"
  | .forge e => e.message
  | .packaging e => e.message

inductive RegistryError
  | duplicateHandler (job : JobType)
  | noTriggers (job : JobType)
  deriving DecidableEq

def RegistryError.message : RegistryError → String
  | .duplicateHandler job => "A handler for job type '" ++ job.name ++ "' is already registered"
  | .noTriggers job => "Handler for job type '" ++ job.name ++ "' declares no triggers"

end JobDispatch
