import JobDispatch.CommandLine.Options
import JobDispatch.Log
import JobDispatch.Text.Quoted

namespace JobDispatch.CommandLine

open Text (hexDigit)

def jsonChar (c : Char) : List Char :=
  if c = '"' then ['\\', '"']
  else if c = '\\' then ['\\', '\\']
  else if c.toNat < 0x20 then
    ['\\', 'u', '0', '0', hexDigit (c.toNat / 16), hexDigit (c.toNat % 16)]
  else [c]

def jsonText (s : String) : String :=
  String.ofList ('"' :: s.toList.flatMap jsonChar ++ ['"'])

def jsonObject (members : List (String × String)) : String :=
  let texts := members.map fun m => jsonText m.1 ++ ":" ++ m.2
  "\x7b" ++ String.intercalate "," texts ++ "\x7d"

def LogFormat.line (format : LogFormat) (r : Log.Record) : String :=
  match format with
  | .pretty =>
    let fields := r.fields.map fun f => " " ++ f.1 ++ "=" ++ f.2
    r.level.name ++ " " ++ r.part.target ++ ": " ++ r.message ++ String.join fields
  | .json =>
    let fields := ("message", r.message) :: r.fields
    jsonObject [("level", jsonText r.level.name),
      ("fields", jsonObject (fields.map fun f => (f.1, jsonText f.2))),
      ("target", jsonText r.part.target)]

end JobDispatch.CommandLine
