import WirelessControl.Wire.Put

/-!
# Several requests side by side

A `Workbench` holds requests under construction, numbered in the order in which they were begun,
and the places of nests that are still to be closed, numbered over all requests. Finishing a
request takes it off the bench, whether it could be finished or not; closing a nest uses its place
up in the same way. A request that could not even be begun keeps its number.
-/

namespace WirelessControl

/-- Requests under construction. -/
structure Workbench where
  /-- The requests; one that is finished, or was never begun, leaves a gap. -/
  requests : List (Option Request) := []
  /-- The places of nests to close; one that was used leaves a gap. -/
  nests : List (Option Nest) := []

namespace Workbench

/-- What can be done at the bench. -/
inductive Step where
  /-- Begins a request, or fails to. -/
  | start (begun : Except EncodingError Request)
  /-- Writes something into a request. -/
  | put (request : Nat) (what : Put)
  /-- Opens a nest and keeps its place. -/
  | openNest (request : Nat) (kind : UInt16)
  /-- Closes a nest. -/
  | closeNest (request place : Nat)
  /-- Copies a request. -/
  | copy (request : Nat)
  /-- Asks where a request goes. -/
  | inspect (request : Nat)
  /-- Finishes a request. -/
  | finish (request : Nat) (seq port : UInt32)

/-- The outcome of a step. -/
inductive Outcome where
  /-- Done. -/
  | done
  /-- A request was begun under this number. -/
  | begun (request : Nat)
  /-- A nest was opened, and its place has this number. -/
  | opened (place : Nat)
  /-- Where the request goes. -/
  | target (command : UInt8) (family : UInt16)
  /-- The finished message. -/
  | message (bytes : Bytes)
  /-- The step failed. -/
  | failed (error : EncodingError)
  /-- There is no such request on the bench. -/
  | noRequest
  /-- There is no such place, or it was used. -/
  | noPlace

/-- The request with a number. -/
def request? (bench : Workbench) (n : Nat) : Option Request :=
  (bench.requests[n]?).join

/-- Runs a building operation on a request of the bench, which keeps what it left. -/
def onRequest {α : Type} (bench : Workbench) (n : Nat) (r : Request) (op : Request.Build α)
    (finished : Workbench → α → Outcome × Workbench) : Outcome × Workbench :=
  match op.run r with
  | .ok a r' => finished { bench with requests := bench.requests.set n (some r') } a
  | .error e r' => (.failed e, { bench with requests := bench.requests.set n (some r') })

/-- Puts a request on the bench, or keeps a gap for it. -/
def add (bench : Workbench) (r : Option Request) : Workbench :=
  { bench with requests := bench.requests ++ [r] }

/-- Carries out one step. -/
def step (bench : Workbench) : Step → Outcome × Workbench
  | .start (.ok r) => (.begun bench.requests.length, bench.add (some r))
  | .start (.error e) => (.failed e, bench.add none)
  | .put n what =>
    match bench.request? n with
    | none => (.noRequest, bench)
    | some r => bench.onRequest n r what.write fun bench _ => (.done, bench)
  | .openNest n kind =>
    match bench.request? n with
    | none => (.noRequest, bench)
    | some r => bench.onRequest n r (Request.nestStart kind) fun bench nest =>
        (.opened bench.nests.length, { bench with nests := bench.nests ++ [some nest] })
  | .closeNest n place =>
    match bench.request? n with
    | none => (.noRequest, bench)
    | some r =>
      match (bench.nests[place]?).join with
      | none => (.noPlace, bench)
      | some nest =>
        { bench with nests := bench.nests.set place none }.onRequest n r (Request.nestEnd nest)
          fun bench _ => (.done, bench)
  | .copy n =>
    match bench.request? n with
    | none => (.noRequest, bench)
    | some r => (.begun bench.requests.length, bench.add (some r))
  | .inspect n =>
    match bench.request? n with
    | none => (.noRequest, bench)
    | some r => (.target r.command r.family, bench)
  | .finish n seq port =>
    match bench.request? n with
    | none => (.noRequest, bench)
    | some r =>
      let bench := { bench with requests := bench.requests.set n none }
      match r.finish seq port with
      | .ok bytes => (.message bytes, bench)
      | .error e => (.failed e, bench)

/-- The number of the request that a step is about. -/
def Step.subject (bench : Workbench) : Step → Nat
  | .start _ => bench.requests.length
  | .put n _ => n
  | .openNest n _ => n
  | .closeNest n _ => n
  | .copy n => n
  | .inspect n => n
  | .finish n _ _ => n

/-- Carries out steps in order. Each outcome comes with the request that the step was about, as
it is afterwards. -/
def run (bench : Workbench) : List Step → List (Outcome × Option Request)
  | [] => []
  | s :: steps =>
    let (outcome, bench') := bench.step s
    (outcome, bench'.request? (s.subject bench)) :: bench'.run steps

end Workbench

end WirelessControl
