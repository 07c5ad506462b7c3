import JobDispatch.Log.Directive
import JobDispatch.Log.Span

/-! Which records a log shows, by a setting of several directives. Of those for records the most
specific one counts. Those for spans only add records: all up to the highest rank that one of them
gives to the span. -/

namespace JobDispatch.Log

namespace Directive

def selectsSpans (d : Directive) : Bool := d.span.isSome || d.field.isSome

def selectsRecords (d : Directive) : Bool :=
  d.span.isNone && d.field.all fun t => t.value.isNone

def coversTarget (d : Directive) (part : Part) : Bool :=
  d.target.isPrefixOf part.target.toList

def coversRecord (d : Directive) (r : Record) : Bool :=
  d.selectsRecords && d.coversTarget r.part &&
    d.field.all fun t => r.names.contains (String.ofList t.name)

def coversSpan (d : Directive) (s : Span) : Bool :=
  d.selectsSpans && d.coversTarget Span.part &&
    d.span.all (fun name => String.ofList name = Span.name) &&
    d.field.all fun t => t.passes s.fields

def sameSelection (d e : Directive) : Bool :=
  d.target = e.target && d.span = e.span && d.field = e.field

def fieldNames (d : Directive) : List (List Char) := (d.field.map (·.name)).toList

def lessSpecific (d e : Directive) : Bool :=
  d.target.length < e.target.length ||
    (d.target.length = e.target.length && d.fieldNames < e.fieldNames)

end Directive

abbrev Filter := List Directive

namespace Filter

def upTo (rank : Nat) : Filter := [{ rank := rank }]

def ofChars (cs : List Char) : Except SettingError Filter :=
  ((Text.pieces ',' cs).filter (!·.isEmpty)).mapM Directive.ofChars

/-- Without a setting, and with an unreadable one, all up to `info` is shown. There is no filter if
a name would have to be cut inside of a character. -/
def ofSetting? : Option String → Option Filter
  | none => some (upTo Level.info.rank)
  | some s =>
    match ofChars s.toList with
    | .ok f => some f
    | .error .unreadable => some (upTo Level.info.rank)
    | .error .cutCharacter => none

def latest : Filter → Filter
  | [] => []
  | d :: ds => if ds.any d.sameSelection then latest ds else d :: latest ds

def recordRank (f : Filter) (r : Record) : Nat :=
  let best := (f.latest.filter (·.coversRecord r)).foldl
    (fun best d => if best.any d.lessSpecific then best else some d) none
  (best.map (·.rank)).getD 0

/-- Spans are opened if their level is within some rank, also one that a later directive replaces,
or if their fields have to be seen. -/
def opensSpans (f : Filter) : Bool :=
  f.any fun d => Span.level.rank ≤ d.rank || d.field.any fun t => t.value.isSome

def spanRank (f : Filter) (s : Span) : Nat :=
  if f.opensSpans then ((f.latest.filter (·.coversSpan s)).map (·.rank)).foldl max 0 else 0

def shows (f : Filter) (r : Record) (s : Option Span) : Bool :=
  r.level.rank ≤ f.recordRank r || s.any fun s => r.level.rank ≤ f.spanRank s

def shown (f : Filter) (log : List Record) : List Record :=
  ((Span.placed log).filter fun p => f.shows p.1 p.2).map (·.1)

end Filter

end JobDispatch.Log
