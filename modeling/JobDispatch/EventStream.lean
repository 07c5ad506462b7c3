import JobDispatch.Event
import JobDispatch.Files
import JobDispatch.Json.Reader
import JobDispatch.Log
import JobDispatch.Text.Blank

/-! Streams of events, one JSON text a line. Blank lines are passed over, and a line that is no JSON
is skipped with a warning. -/

namespace JobDispatch

structure Inbound where
  event : Event
  topic : Option String

inductive StreamError
  | notUtf8
  | file (e : FileError)
  deriving DecidableEq

def StreamError.reason : StreamError → String
  | .notUtf8 => "invalid UTF-8"
  | .file e => e.message

def StreamError.message (e : StreamError) : String :=
  "Failed to read event stream: " ++ e.reason

namespace EventStream

def inbound? (text : String) : Option Inbound :=
  (Json.parse? text).map fun v =>
    ⟨⟨v⟩, ((v.member? "topic").bind Json.asText?).bind nonempty?⟩

def linesOf (bytes : List UInt8) : List (List UInt8) :=
  Text.lines 10 13 bytes

inductive Line
  | blank
  | event (i : Inbound)
  | malformed
  | notUtf8

def Line.ofBytes (bytes : List UInt8) : Line :=
  match decodeUtf8 bytes with
  | .error _ => .notUtf8
  | .ok s =>
    let text := Text.trimmed s
    if text.isEmpty then .blank
    else
      match inbound? text with
      | some i => .event i
      | none => .malformed

inductive Delivery
  | event (i : Inbound)
  | malformed (line : UInt64)
  | failure (e : StreamError)

/-- The deliveries of lines that follow `read` others. A line that is not UTF-8 has no number. -/
def deliveriesFrom (read : UInt64) : List (List UInt8) → List Delivery
  | [] => []
  | line :: rest =>
    match Line.ofBytes line with
    | .blank => deliveriesFrom (read + 1) rest
    | .event i => .event i :: deliveriesFrom (read + 1) rest
    | .malformed => .malformed (read + 1) :: deliveriesFrom (read + 1) rest
    | .notUtf8 => .failure .notUtf8 :: deliveriesFrom read rest

def deliveries (bytes : List UInt8) : List Delivery :=
  deliveriesFrom 0 (linesOf bytes)

def skipped (line : UInt64) : Log.Record :=
  ⟨.warn, .listener, "Skipping malformed event", [("line", toString line)], ["error"]⟩

structure Source where
  rest : List (List UInt8)
  read : UInt64 := 0

def Source.ofBytes (bytes : List UInt8) : Source := ⟨linesOf bytes, 0⟩

structure Next where
  result : Except StreamError (Option Inbound)
  source : Source
  log : List Log.Record := []

def nextFrom (read : UInt64) : List (List UInt8) → Next
  | [] => ⟨.ok none, ⟨[], read⟩, []⟩
  | line :: rest =>
    match Line.ofBytes line with
    | .blank => nextFrom (read + 1) rest
    | .event i => ⟨.ok (some i), ⟨rest, read + 1⟩, []⟩
    | .malformed =>
      let n := nextFrom (read + 1) rest
      { n with log := skipped (read + 1) :: n.log }
    | .notUtf8 => ⟨.error .notUtf8, ⟨rest, read⟩, []⟩

def Source.next (s : Source) : Next := nextFrom s.read s.rest

end EventStream

end JobDispatch
