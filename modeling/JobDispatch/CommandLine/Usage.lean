import JobDispatch.CommandLine.Options

namespace JobDispatch.CommandLine

def versionText : String := "steve 0.1.0"

def usage : String := "Usage: steve [OPTIONS]"

structure OptionHelp where
  spelling : String
  purpose : String

def entries : List OptionHelp := [
  ⟨"-e, --events <EVENTS>", "File with one JSON event per line. Reads stdin when omitted"⟩,
  ⟨"    --config-dir <CONFIG_DIR>",
    "Directory holding `upstream/` and `downstream/` package configurations " ++
      "[env: STEVE_CONFIG_DIR] [default: .]"⟩,
  ⟨"    --upstream-branch <UPSTREAM_BRANCH>",
    "Upstream branch that downstream commits are synced into " ++
      "[env: STEVE_UPSTREAM_BRANCH] [default: master]"⟩,
  ⟨"    --log-format <LOG_FORMAT>",
    "Log line format [default: pretty] [possible values: pretty, json]"⟩,
  ⟨"    --otlp-endpoint <OTLP_ENDPOINT>",
    "OTLP collector endpoint; traces are only exported when set " ++
      "[env: OTEL_EXPORTER_OTLP_ENDPOINT]"⟩,
  ⟨"-h, --help", "Print help"⟩,
  ⟨"-V, --version", "Print version"⟩]

def helpText : String :=
  let options := entries.map fun e => "\n  " ++ e.spelling ++ "\n          " ++ e.purpose
  "Replays packaging events through the job dispatcher\n\n" ++ usage ++ "\n\nOptions:" ++
    String.join options

def Stop.message : Stop → String
  | .help => helpText
  | .version => versionText
  | .unknownArgument => "error: unexpected argument found\n\n" ++ usage
  | .invalidValue => "error: a value is missing or invalid\n\n" ++ usage
  | .repeated => "error: an argument cannot be used multiple times\n\n" ++ usage
  | .unexpectedValue => "error: unexpected value for a flag found\n\n" ++ usage

end JobDispatch.CommandLine
