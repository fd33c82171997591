/-!
# The life of a command

A command is created, sent, waits for its answer and is completed, in this order and once.
From everywhere it can be cancelled, and then nothing happens to it any more.

## Main statements

* `CommandState.rank_lt_of_allows`: every step leads further on.
-/

namespace WirelessControl

/-- Where a command is in its life. -/
inductive CommandState where
  /-- Built, and nothing else. -/
  | created
  /-- About to be written to the command channel. -/
  | sent
  /-- Written, and the answer is not here yet. -/
  | awaitingResponse
  /-- Answered. -/
  | completed
  /-- Cancelled by its owner or by cleanup. -/
  | cancelled
deriving DecidableEq, Repr

namespace CommandState

/-- The state as messages show it. -/
def text : CommandState → String
  | .created => "created"
  | .sent => "sent"
  | .awaitingResponse => "awaiting_response"
  | .completed => "completed"
  | .cancelled => "cancelled"

/-- Whether a command may go from one state to another. -/
def allows : CommandState → CommandState → Bool
  | .created, .sent => true
  | .sent, .awaitingResponse => true
  | .awaitingResponse, .completed => true
  | .cancelled, _ => false
  | _, .cancelled => true
  | _, _ => false

/-- How far along a state is. -/
def rank : CommandState → Nat
  | .created => 0
  | .sent => 1
  | .awaitingResponse => 2
  | .completed => 3
  | .cancelled => 4

/-- Every step leads further on. -/
theorem rank_lt_of_allows {s t : CommandState} (h : allows s t = true) : rank s < rank t := by
  cases s <;> cases t <;> simp_all [allows, rank]

end CommandState

end WirelessControl
