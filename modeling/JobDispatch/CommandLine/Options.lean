/-! The command line: options with a value, each given at most once, and two flags that only display
something. Environment variables stand in for options that are not given. -/

namespace JobDispatch.CommandLine

inductive LogFormat
  | pretty
  | json
  deriving DecidableEq

def LogFormat.named? : String → Option LogFormat
  | "pretty" => some .pretty
  | "json" => some .json
  | _ => none

structure Options where
  events : Option String := none
  configDir : String := "."
  upstreamBranch : String := "master"
  logFormat : LogFormat := .pretty
  endpoint : Option String := none
  deriving DecidableEq

inductive Stop
  | unknownArgument
  | invalidValue
  | repeated
  | unexpectedValue
  | help
  | version
  deriving DecidableEq

inductive Key
  | events
  | configDir
  | upstreamBranch
  | logFormat
  | endpoint
  deriving DecidableEq

def Key.long? : String → Option Key
  | "events" => some .events
  | "config-dir" => some .configDir
  | "upstream-branch" => some .upstreamBranch
  | "log-format" => some .logFormat
  | "otlp-endpoint" => some .endpoint
  | _ => none

def Key.short? : Char → Option Key
  | 'e' => some .events
  | _ => none

def flagLong? : String → Option Stop
  | "help" => some .help
  | "version" => some .version
  | _ => none

def flagShort? : Char → Option Stop
  | 'h' => some .help
  | 'V' => some .version
  | _ => none

def Key.accepts (key : Key) (value : String) : Bool :=
  match key with
  | .events | .configDir => !value.isEmpty
  | .logFormat => (LogFormat.named? value).isSome
  | .upstreamBranch | .endpoint => true

/-- Arguments part way through: the values taken, and the option last named, whose value is settled
when the next option starts. -/
structure Partial where
  values : List (Key × String) := []
  pending : Option (Key × Option String) := none

namespace Partial

def take (p : Partial) (key : Key) (value : String) : Except Stop Partial :=
  if (p.values.lookup key).isSome then .error .repeated
  else if key.accepts value then .ok { p with values := (key, value) :: p.values }
  else .error .invalidValue

def settle (p : Partial) : Except Stop Partial :=
  match p.pending with
  | none => .ok p
  | some (_, none) => .error .invalidValue
  | some (key, some value) => { p with pending := none }.take key value

def start (p : Partial) (key : Key) (value : Option String) : Except Stop Partial := do
  let p ← p.settle
  match value with
  | some value => p.take key value
  | none => return { p with pending := some (key, none) }

def display {α : Type} (p : Partial) (flag : Stop) : Except Stop α := do
  let _ ← p.settle
  .error flag

def long (p : Partial) (name : String) (value : Option String) : Except Stop Partial :=
  match Key.long? name with
  | some key => p.start key value
  | none =>
    match flagLong? name, value with
    | some flag, none => p.display flag
    | some _, some _ => .error .unexpectedValue
    | none, _ => .error .unknownArgument

def short (p : Partial) : List Char → Except Stop Partial
  | [] => .ok p
  | c :: cs =>
    match Key.short? c with
    | some key =>
      match cs with
      | [] => p.start key none
      | '=' :: value => p.start key (some (String.ofList value))
      | value => p.start key (some (String.ofList value))
    | none =>
      match flagShort? c with
      | some flag => p.display flag
      | none => .error .unknownArgument

def plain (p : Partial) (value : String) : Except Stop Partial :=
  match p.pending with
  | some (key, none) => .ok { p with pending := some (key, some value) }
  | _ => .error .unknownArgument

def splitName (cs : List Char) : String × Option String :=
  match cs.dropWhile (· != '=') with
  | [] => (String.ofList cs, none)
  | _ :: value => (String.ofList (cs.takeWhile (· != '=')), some (String.ofList value))

def argument (p : Partial) (arg : String) : Except Stop Partial :=
  match arg.toList with
  | '-' :: '-' :: cs =>
    let (name, value) := splitName cs
    p.long name value
  | '-' :: c :: cs => p.short (c :: cs)
  | _ => p.plain arg

def all (p : Partial) : List String → Except Stop Partial
  | [] => p.settle
  | arg :: args =>
    if arg = "--" then
      if args.isEmpty then p.settle else .error .unknownArgument
    else do (← p.argument arg).all args

end Partial

abbrev Environment := String → Option String

def logVariable : String := "RUST_LOG"

def endpointVariable : String := "OTEL_EXPORTER_OTLP_ENDPOINT"

/-- Goes before the variable for all kinds of data. -/
def tracesEndpointVariable : String := "OTEL_EXPORTER_OTLP_TRACES_ENDPOINT"

def compressionVariables : List String :=
  ["OTEL_EXPORTER_OTLP_TRACES_COMPRESSION", "OTEL_EXPORTER_OTLP_COMPRESSION"]

def Key.variable? : Key → Option String
  | .configDir => some "STEVE_CONFIG_DIR"
  | .upstreamBranch => some "STEVE_UPSTREAM_BRANCH"
  | .endpoint => some endpointVariable
  | .events | .logFormat => none

def valueOf (p : Partial) (env : Environment) (key : Key) : Except Stop (Option String) :=
  match p.values.lookup key with
  | some value => .ok (some value)
  | none =>
    match key.variable?.bind env with
    | none => .ok none
    | some value => if key.accepts value then .ok (some value) else .error .invalidValue

def parse (args : List String) (env : Environment) : Except Stop Options := do
  let p ← Partial.all {} args
  let events ← valueOf p env .events
  let configDir ← valueOf p env .configDir
  let upstreamBranch ← valueOf p env .upstreamBranch
  let logFormat ← valueOf p env .logFormat
  let endpoint ← valueOf p env .endpoint
  return {
    events := events
    configDir := configDir.getD "."
    upstreamBranch := upstreamBranch.getD "master"
    logFormat := (logFormat.bind LogFormat.named?).getD .pretty
    endpoint := endpoint }

end JobDispatch.CommandLine
