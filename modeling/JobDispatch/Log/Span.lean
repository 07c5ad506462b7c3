import JobDispatch.Log

/-! The stretches of a log. What is written while one event is dispatched forms a span, which has
fields of its own: a random identifier, and the topic of the event. -/

namespace JobDispatch.Log

structure Span where
  topic : String
  deriving DecidableEq

namespace Span

def name : String := "process_message"

def part : Part := .dispatch

def level : Level := .info

/-- The fields with their texts. The least identifier stands for the random one. -/
def fields (s : Span) : List (String × String) :=
  [("dispatch_id", "00000000-0000-4000-8000-000000000000"), ("topic", s.topic)]

def after (r : Record) : Option Span :=
  (r.fields.lookup "topic").map Span.mk

/-- The records that follow in an open span, each with the span that it stands in. Those of the
listener stand between the spans. -/
def placedIn (current : Option Span) : List Record → List (Record × Option Span)
  | [] => []
  | r :: rs =>
    if r.part = .listener then (r, none) :: placedIn (after r) rs
    else (r, current) :: placedIn current rs

def placed (log : List Record) : List (Record × Option Span) := placedIn none log

end Span

end JobDispatch.Log
