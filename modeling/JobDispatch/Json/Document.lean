import JobDispatch.Json.Value
import JobDispatch.Json.Token

/-! A JSON text as far as it is well formed. A document keeps what a reader of a certain type could
still object to: repeated keys, numbers beyond every double, strings without a value, and the place
where the text stops being JSON. -/

namespace JobDispatch.Json

inductive Ending
  | closed
  | cut
  deriving DecidableEq

inductive Document
  | null
  | bool (b : Bool)
  | number (n : Option Number)
  | text (s : Option String)
  | array (items : List Document) (ending : Ending)
  | object (members : List (Option String × Document)) (ending : Ending)
  | malformed

namespace Document

instance : Inhabited Document := ⟨.malformed⟩

/-- A container part way through, its contents last first. -/
inductive Frame
  | array (items : List Document)
  | object (members : List (Option String × Document)) (key : Option String)

def Frame.close (ending : Ending) : Frame → Document
  | .array items => .array items.reverse ending
  | .object members _ => .object members.reverse ending

def Frame.add (d : Document) : Frame → Frame
  | .array items => .array (d :: items)
  | .object members key => .object ((key, d) :: members) none

inductive Place
  | value
  | firstItem
  | firstKey
  | key
  | colon
  | separator

inductive Step
  | go (place : Place) (frames : List Frame)
  | stop (d : Document)

/-- Ends every open container where the text stops being JSON, with `d` as the innermost value. -/
def breakOff (d : Document) : List Frame → Document
  | [] => d
  | f :: fs => breakOff ((f.add d).close .cut) fs

def breakInside : List Frame → Document
  | [] => .malformed
  | f :: fs => breakOff (f.close .cut) fs

def deliver (d : Document) : List Frame → Step
  | [] => .stop d
  | f :: fs => .go .separator (f.add d :: fs)

def value (frames : List Frame) : Token → Step
  | .openArray => .go .firstItem (.array [] :: frames)
  | .openObject => .go .firstKey (.object [] none :: frames)
  | .null => deliver .null frames
  | .bool b => deliver (.bool b) frames
  | .number n => deliver (.number n) frames
  | .text s => deliver (.text s) frames
  | .closeArray | .closeObject | .comma | .colon | .malformed => .stop (breakOff .malformed frames)

def advance (place : Place) (frames : List Frame) (t : Token) : Step :=
  match place, t, frames with
  | .firstItem, .closeArray, f :: fs => deliver (f.close .closed) fs
  | .firstKey, .closeObject, f :: fs => deliver (f.close .closed) fs
  | .firstKey, .text k, .object members _ :: fs => .go .colon (.object members k :: fs)
  | .firstKey, _, frames => .stop (breakInside frames)
  | .key, .text k, .object members _ :: fs => .go .colon (.object members k :: fs)
  | .key, _, frames => .stop (breakInside frames)
  | .colon, .colon, frames => .go .value frames
  | .colon, _, frames => .stop (breakOff .malformed frames)
  | .separator, .comma, .array items :: fs => .go .value (.array items :: fs)
  | .separator, .comma, .object members k :: fs => .go .key (.object members k :: fs)
  | .separator, .closeArray, .array items :: fs => deliver (.array items.reverse .closed) fs
  | .separator, .closeObject, .object members _ :: fs =>
    deliver (.object members.reverse .closed) fs
  | .separator, _, frames => .stop (breakInside frames)
  | _, t, frames => value frames t

def parse (place : Place) (frames : List Frame) : List Char → Document × List Char
  | [] =>
    match advance place frames .malformed with
    | .stop d => (d, [])
    | .go _ frames => (breakInside frames, [])
  | c :: cs =>
    if Token.isSpace c then parse place frames cs
    else
      match _h : Token.next c cs with
      | (t, rest) =>
        match advance place frames t with
        | .go place frames => parse place frames rest
        | .stop d => (d, rest)
termination_by cs => cs.length
decreasing_by
  · exact Nat.lt_succ_self _
  · have shorter := Token.next_length c cs
    rw [_h] at shorter
    exact Nat.lt_succ_of_le shorter

def ofChars (cs : List Char) : Document × Bool :=
  let (d, rest) := parse .value [] cs
  (d, rest.all Token.isSpace)

mutual

def intact : Document → Bool
  | .array items ending => itemsIntact items && decide (ending = .closed)
  | .object members ending => membersIntact members && decide (ending = .closed)
  | .malformed => false
  | _ => true

def itemsIntact : List Document → Bool
  | [] => true
  | d :: ds => d.intact && itemsIntact ds

def membersIntact : List (Option String × Document) → Bool
  | [] => true
  | (_, d) :: ms => d.intact && membersIntact ms

end

mutual

def ofJson : Json → Document
  | .null => .null
  | .bool b => .bool b
  | .number n => .number (some n)
  | .text s => .text (some s)
  | .array items => .array (ofItems items) .closed
  | .object members => .object (ofMembers members) .closed

def ofItems : List Json → List Document
  | [] => []
  | v :: vs => ofJson v :: ofItems vs

def ofMembers : List (String × Json) → List (Option String × Document)
  | [] => []
  | (k, v) :: ms => (some k, ofJson v) :: ofMembers ms

end

end Document

end JobDispatch.Json
