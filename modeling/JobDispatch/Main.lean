import JobDispatch.CommandLine.LogLine
import JobDispatch.CommandLine.Session
import JobDispatch.CommandLine.Usage

namespace JobDispatch.Main

open CommandLine

def systemError (code : UInt32) (details : String) : FileError :=
  let code := if code < 0x80000000 then code else 0 - code
  match code with
  | 2 => .missing
  | 20 => .notDirectory
  | 21 => .directory
  | 36 => .nameTooLong
  | _ => .other (details ++ " (os error " ++ toString code ++ ")")

def fileError : IO.Error → FileError
  | .noFileOrDirectory _ code details => systemError code details
  | .invalidArgument _ code details => systemError code details
  | .permissionDenied _ code details => systemError code details
  | .resourceExhausted _ code details => systemError code details
  | .inappropriateType _ code details => systemError code details
  | .noSuchThing _ code details => systemError code details
  | .otherError code details => systemError code details
  | e => .other (toString e)

def isDirectory (path : String) : IO Bool := do
  try (← IO.FS.realPath path).isDir
  catch _ => return false

def readFile (path : String) : IO (Except FileError (List UInt8)) := do
  if path.toList.contains '\x00' then return .error .nulInName
  try return .ok (← IO.FS.readBinFile path).toList
  catch e => return .error (fileError e)

def systemFiles : Files IO := ⟨isDirectory, readFile⟩

partial def readAll (stream : IO.FS.Stream) (bytes : ByteArray) : IO ByteArray := do
  let more ← stream.read 65536
  if more.isEmpty then return bytes else readAll stream (bytes ++ more)

def readInput : IO (List UInt8) := do
  return (← readAll (← IO.getStdin) .empty).toList

def watched : List String :=
  ["STEVE_CONFIG_DIR", "STEVE_UPSTREAM_BRANCH", logVariable, endpointVariable,
    tracesEndpointVariable] ++ compressionVariables

def environment : IO Environment := do
  let values ← watched.mapM fun name => do return (name, ← IO.getEnv name)
  return fun name => (values.lookup name).join

def printStop (stop : Stop) : IO Unit :=
  if stop.exitCode = 0 then IO.println stop.message else IO.eprintln stop.message

end JobDispatch.Main

open JobDispatch in
def main (args : List String) : IO UInt32 := do
  let env ← Main.environment
  let report ← CommandLine.session Main.systemFiles args env Main.readInput
  report.stop.forM Main.printStop
  for r in report.log do
    IO.eprintln (report.format.line r)
  report.failure.forM fun f => IO.eprintln ("Error: " ++ f.report)
  return report.exitCode.toUInt32
