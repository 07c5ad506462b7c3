import JobDispatch.Listener
import JobDispatch.Proofs.Run

namespace JobDispatch.Listener

open EventStream

variable {X : Extras}

def feed (d : Dispatcher X) (s : Summary) : List Delivery → Program X (Except StreamError Summary)
  | [] => .done (.ok s)
  | x :: rest => (step d s x).bind fun
    | .ok s => feed d s rest
    | .error e => .done (.error e)

lemma runFrom_append (d : Dispatcher X) (s : Summary) (xs ys : List Delivery) :
    runFrom d s (xs ++ ys) = (feed d s xs).bind fun
      | .ok s => runFrom d s ys
      | .error e => .done (.error e) := by
  induction xs generalizing s with
  | nil => rfl
  | cons x xs ih =>
    rw [List.cons_append, runFrom, feed, Program.bind_assoc]
    congr 1
    funext r
    cases r with
    | error e => rfl
    | ok s => exact ih s

lemma run_split (d : Dispatcher X) (xs ys : List Delivery) (i : Inbound) :
    run d (xs ++ .event i :: ys) = (feed d {} xs).bind fun
      | .ok s => (process d s i).bind fun s => runFrom d s ys
      | .error e => .done (.error e) := by
  rw [run, runFrom_append]
  congr 1
  funext r
  cases r with
  | error e => rfl
  | ok s =>
    simp only [runFrom, step, Program.bind_assoc]
    rfl

end JobDispatch.Listener
