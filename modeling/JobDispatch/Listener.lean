import JobDispatch.Dispatch
import JobDispatch.EventStream

/-! The loop that feeds a stream to a dispatcher. An event that fails is counted and logged, and the
loop goes on; a failure of the stream ends it. -/

namespace JobDispatch

open Log.Record EventStream Text

structure Summary where
  processed : UInt64 := 0
  failed : UInt64 := 0
  deriving DecidableEq

instance coeNat : Coe UInt64 Nat := ⟨UInt64.toNat⟩

namespace Listener

variable {X : Extras}

def received (topic : Option String) : Log.Record :=
  ⟨.debug, .listener, "Event received", [("topic", quotedOption topic)], ["received_at"]⟩

def failedWith (e : JobError) (topic : Option String) : Log.Record :=
  error .listener "Event processing failed" [("error", e.message), ("topic", quotedOption topic)]

def exhausted (s : Summary) : Log.Record :=
  info .listener "Event source exhausted"
    [("processed", toString s.processed), ("failed", toString s.failed)]

def process (d : Dispatcher X) (s : Summary) (i : Inbound) : Program X Summary :=
  .log (received i.topic) <| (d.dispatch i.event i.topic).run.bind fun
    | .ok () => .done ⟨s.processed + 1, s.failed⟩
    | .error e => .log (failedWith e i.topic) (.done ⟨s.processed + 1, s.failed + 1⟩)

def step (d : Dispatcher X) (s : Summary) : Delivery → Program X (Except StreamError Summary)
  | .event i => (process d s i).bind fun s => .done (.ok s)
  | .malformed line => .log (skipped line) (.done (.ok s))
  | .failure e => .done (.error e)

def runFrom (d : Dispatcher X) (s : Summary) :
    List Delivery → Program X (Except StreamError Summary)
  | [] => .log (exhausted s) (.done (.ok s))
  | x :: rest => (step d s x).bind fun
    | .ok s => runFrom d s rest
    | .error e => .done (.error e)

def run (d : Dispatcher X) (deliveries : List Delivery) : Program X (Except StreamError Summary) :=
  runFrom d {} deliveries

end Listener

end JobDispatch
