import JobDispatch.Text.Pattern

/-! Looking for a pattern in a text. The automaton of a pattern is at several of its nodes at once,
preferred ones first. A match may start anywhere: the first one to start is found, and of the ways
to match from there the preferred one. -/

namespace JobDispatch.Text

def isWordChar (c : Char) : Bool := c.isAlphanum || c = '_'

def Look.holds (before after : Option Char) : Look → Bool
  | .start => before.isNone
  | .finish => after.isNone
  | .lineStart => before.all (· = '\n')
  | .lineEnd => after.all (· = '\n')
  | .crlfStart => before.all (· = '\n') || before = some '\r' && after != some '\n'
  | .crlfEnd => after.all (· = '\r') || after = some '\n' && before != some '\r'
  | .boundary => before.any isWordChar != after.any isWordChar
  | .noBoundary => before.any isWordChar == after.any isWordChar
  | .wordStart => !before.any isWordChar && after.any isWordChar
  | .wordEnd => before.any isWordChar && !after.any isWordChar

def Look.holdsAfter (before : Option Char) : Look → Bool
  | .start => before.isNone
  | .lineStart | .crlfStart => before.all (· = '\n')
  | _ => false

inductive Node
  | done
  | take (s : CharSet) (next : Nat)
  | check (l : Look) (next : Nat)
  | fork (preferred other : Nat)

def Node.loop (greedy : Bool) (more after : Nat) : Node :=
  if greedy then .fork more after else .fork after more

/-- Adds the nodes of a pattern before the node `next`, and tells at which one they start. What
repeats a pattern is a node that comes after it and leads back to it. If the pattern may match the
empty text, a node of its own decides whether it is repeated at all. -/
def Pattern.addTo (nodes : Array Node) (next : Nat) : Pattern → Nat × Array Node
  | .empty => (next, nodes)
  | .text cs =>
    cs.foldr (fun c (next, nodes) => (nodes.size, nodes.push (.take (.range c c) next)))
      (next, nodes)
  | .one _ s => (nodes.size, nodes.push (.take s next))
  | .look l => (nodes.size, nodes.push (.check l next))
  | .captured _ p => p.addTo nodes next
  | .optional greedy p =>
    let (start, nodes) := p.addTo nodes next
    (nodes.size, nodes.push (.loop greedy start next))
  | .plus greedy p =>
    let again := nodes.size
    let (start, nodes) := p.addTo (nodes.push .done) again
    (start, nodes.setIfInBounds again (.loop greedy start next))
  | .star greedy p =>
    let again := nodes.size
    let (start, nodes) := p.addTo (nodes.push .done) again
    let nodes := nodes.setIfInBounds again (.loop greedy start next)
    if p.leastLength?.any (0 < ·) then (again, nodes)
    else (nodes.size, nodes.push (.loop greedy start next))
  | .seq p q =>
    let (middle, nodes) := q.addTo nodes next
    p.addTo nodes middle
  | .alt p q =>
    let (first, nodes) := p.addTo nodes next
    let (second, nodes) := q.addTo nodes next
    (nodes.size, nodes.push (.fork first second))

structure Automaton where
  nodes : Array Node
  start : Nat

namespace Automaton

def last : Nat := 0

def ofPattern (p : Pattern) : Automaton :=
  let (start, nodes) := p.addTo #[.done] last
  ⟨nodes, start⟩

variable (a : Automaton)

structure Found where
  seen : Array Bool
  stops : List Nat := []

def Found.see (f : Found) (node : Nat) : Found :=
  { f with seen := f.seen.setIfInBounds node true }

def Found.stop (f : Found) (node : Nat) : Found := { f with stops := node :: f.stops }

/-- Follows the ways from a node, preferred ones first. They stop at the end, before a character and
at a condition, after which they go on if it holds. A node that was seen leads nowhere new, which
bounds the depth. -/
def spread (holds : Look → Bool) : Nat → Nat → Found → Found
  | 0, _, f => f
  | depth + 1, node, f =>
    if f.seen[node]?.getD true then f
    else
      let f := f.see node
      match a.nodes[node]? with
      | none => f
      | some (.fork preferred other) =>
        spread holds depth other (spread holds depth preferred f)
      | some (.check l next) =>
        if holds l then spread holds depth next (f.stop node) else f.stop node
      | some _ => f.stop node

def stopsFrom (holds : Look → Bool) (nodes : List Nat) : List Nat :=
  let count := a.nodes.size
  let found := nodes.foldl (fun f node => a.spread holds (count + 1) node f)
    ⟨Array.replicate count false, []⟩
  found.stops.reverse

def condition? (node : Nat) : Option Look :=
  match a.nodes[node]? with
  | some (.check l _) => some l
  | _ => none

/-- The stops between two characters. The ways that hold whatever comes next are followed first. If
then the next character makes more conditions hold, all ways are followed again from there. -/
def stopsBetween (before after : Option Char) (nodes : List Nat) : List Nat :=
  let stops := a.stopsFrom (Look.holdsAfter before) nodes
  let opens (node : Nat) : Bool :=
    (a.condition? node).any fun l => l.holds before after && !l.holdsAfter before
  if stops.any opens then a.stopsFrom (Look.holds before after) stops else stops

def advance? (c : Char) (node : Nat) : Option Nat :=
  match a.nodes[node]? with
  | some (.take s next) => if s.has c then some next else none
  | _ => none

def endsInside (c : Char) : Bool :=
  1 < c.utf8Size && (a.stopsBetween (some c) (some c) [a.start]).contains last

/-- A search part way through: the nodes of matches that have started, preferred ones first, and
whether a match may still start. -/
structure Search where
  nodes : List Nat := []
  starting : Bool := true

def Search.started (s : Search) : List Nat :=
  s.nodes ++ if s.starting then [a.start] else []

/-- Looks for a match from a place on, and says whether the one that is found ends with the text.
Where a match ends, all that is less preferred is given up. -/
def reaches (before : Option Char) (s : Search) : List Char → Bool
  | [] => (a.stopsBetween before none (s.started a)).contains last
  | c :: cs =>
    let stops := a.stopsBetween before (some c) (s.started a)
    let kept := stops.takeWhile (· != last)
    let starting := s.starting && !stops.contains last && !a.endsInside c
    reaches (some c) ⟨kept.filterMap (a.advance? c), starting⟩ cs

end Automaton

def Pattern.accepts (p : Pattern) (cs : List Char) : Bool :=
  (Automaton.ofPattern p).reaches none {} cs

end JobDispatch.Text
