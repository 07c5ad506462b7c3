import JobDispatch.CommandLine.Endpoint
import JobDispatch.CommandLine.Options
import JobDispatch.Log.Filter
import JobDispatch.Offline.Replay

namespace JobDispatch.CommandLine

variable {m : Type → Type} [Monad m]

inductive Failure
  | registry (e : RegistryError)
  | notOpened (path : String) (e : FileError)
  | stream (e : StreamError)
  | events (failed processed : UInt64)
  | endpoint
  deriving DecidableEq

namespace Failure

def headline : Failure → String
  | .registry e => e.message
  | .notOpened path _ => "failed to open '" ++ path ++ "'"
  | .stream e => e.message
  | .events failed processed =>
    toString failed ++ " of " ++ toString processed ++ " events failed to process"
  | .endpoint => "Exporter otlp"

def cause? : Failure → Option String
  | .notOpened _ e => some e.message
  | .stream (.file e) => some e.message
  | _ => none

def oneLine (f : Failure) : String :=
  f.headline ++ (f.cause?.map (": " ++ ·)).getD ""

def report (f : Failure) : String :=
  f.headline ++ (f.cause?.map ("\n\nCaused by:\n    " ++ ·)).getD ""

end Failure

def eventsOf (path : String) : Except FileError (List UInt8) →
    Except Failure (List EventStream.Delivery)
  | .ok bytes => .ok (EventStream.deliveries bytes)
  | .error .directory => .ok [.failure (.file .directory)]
  | .error e => .error (.notOpened path e)

def openEvents (files : Files m) (o : Options) (input : m (List UInt8)) :
    m (Except Failure (List EventStream.Delivery)) :=
  match o.events with
  | none => (fun bytes => .ok (EventStream.deliveries bytes)) <$> input
  | some path => eventsOf path <$> files.read path

def verdict : Except StreamError Summary → Option Failure
  | .error e => some (.stream e)
  | .ok s => if s.failed = 0 then none else some (.events s.failed s.processed)

def replay (files : Files m) (o : Options) (input : m (List UInt8)) :
    m (Option Failure × List Log.Record) := do
  let start := Replay.dispatcher o.upstreamBranch
  match start.value with
  | .error e => return (some (.registry e), start.log)
  | .ok d =>
    match ← openEvents files o input with
    | .error failure => return (some failure, start.log)
    | .ok deliveries =>
      let (result, log) ← Replay.run files o.configDir d deliveries
      return (verdict result, start.log ++ log)

structure Report where
  exitCode : UInt8
  stop : Option Stop := none
  failure : Option Failure := none
  format : LogFormat := .pretty
  log : List Log.Record := []

def endpointOf (env : Environment) (option : String) : String :=
  ((env tracesEndpointVariable).or (env endpointVariable)).getD option

def exporterReady (o : Options) (env : Environment) : Bool :=
  o.endpoint.all fun option =>
    Endpoint.isValid (endpointOf env option) &&
      compressionVariables.all fun name => (env name).isNone

def Stop.exitCode : Stop → UInt8
  | .help | .version => 0
  | _ => 2

def abortedCode : UInt8 := 101

def session (files : Files m) (args : List String) (env : Environment) (input : m (List UInt8)) :
    m Report := do
  match parse args env with
  | .error stop => return { exitCode := stop.exitCode, stop := some stop }
  | .ok o =>
    match Log.Filter.ofSetting? (env logVariable) with
    | none => return { exitCode := abortedCode, format := o.logFormat }
    | some filter =>
      if exporterReady o env then
        let (failure, log) ← replay files o input
        return {
          exitCode := if failure.isSome then 1 else 0
          failure := failure
          format := o.logFormat
          log := filter.shown log }
      else return { exitCode := 1, failure := some .endpoint, format := o.logFormat }

end JobDispatch.CommandLine
