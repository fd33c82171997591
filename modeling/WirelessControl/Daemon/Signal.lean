/-!
# Termination signals

The signals of the system that end the daemon. All of them mean the same; since there is nothing to
reload, so does the one for that.

## Main statements

* `TerminationSignal.ofNumber?_eq_some_iff`: a signal is found by its number only.
-/

namespace WirelessControl

/-- A signal that ends the daemon. -/
inductive TerminationSignal where
  /-- From the service manager. -/
  | terminate
  /-- From a terminal. -/
  | interrupt
  /-- From a terminal too, asking for a dump. -/
  | quit
  /-- The terminal is gone. -/
  | hangUp
deriving DecidableEq, Repr

namespace TerminationSignal

/-- All signals that the daemon listens for. -/
def all : List TerminationSignal := [.terminate, .interrupt, .quit, .hangUp]

/-- The number of the signal. -/
def number : TerminationSignal → Nat
  | .terminate => 15
  | .interrupt => 2
  | .quit => 3
  | .hangUp => 1

/-- The usual name of the signal. -/
def name : TerminationSignal → String
  | .terminate => "SIGTERM"
  | .interrupt => "SIGINT"
  | .quit => "SIGQUIT"
  | .hangUp => "SIGHUP"

/-- The signal of a number. -/
def ofNumber? (n : Int) : Option TerminationSignal := all.find? fun s => (s.number : Int) = n

/-- A signal is found by its number only. -/
theorem ofNumber?_eq_some_iff {n : Int} {s : TerminationSignal} :
    ofNumber? n = some s ↔ n = s.number := by
  constructor
  · intro h
    have := List.find?_some h
    exact (of_decide_eq_true this).symm
  · rintro rfl
    cases s <;> decide

end TerminationSignal

end WirelessControl
