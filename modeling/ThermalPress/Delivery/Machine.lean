import ThermalPress.Command
import ThermalPress.Delivery.Spool
import ThermalPress.Fault

/-!
# Deliveries

A delivery takes one job to one printer in atomic steps (`Delivery.advance`): it waits for the printer's turn, makes
and fills a spool file, reads the job's bytes from it, connects, writes the bytes and a flush behind them, closes the
connection, deletes the spool file, gives up the turn, and settles on a state and an outcome.  Each step may fail, and
then the delivery goes on with what has to be undone.  The caller waits beside it: it collects the outcome
(`Delivery.collect`) unless its own wait ends first (`Delivery.expire`), which stops nothing.

How long a wait is decides nothing here: it may end before any step or not at all.  All that is assumed of its length
is that one can wait for so long, that is, that it is positive and within what the locks of the system can count.
-/

namespace ThermalPress

/-- Bytes for a printer, how long the caller waits for them to be sent, and a name for messages.  The length of the
wait is only told, in messages and records. -/
structure PrintJob where
  payload : Bytes
  timeout : Quantity
  label : String
  deriving DecidableEq, Repr

/-- The state that a delivery shows. -/
inductive DeliveryState where
  | idle
  | staged
  | transmitting
  | completed
  | timedOut
  | failed
  deriving DecidableEq, Repr

/-- The word for a state. -/
def DeliveryState.name : DeliveryState → String
  | .idle => "idle"
  | .staged => "staged"
  | .transmitting => "transmitting"
  | .completed => "completed"
  | .timedOut => "timed_out"
  | .failed => "failed"

/-- What a delivery does next. -/
inductive Phase where
  /-- Start, unless it is cancelled. -/
  | start
  /-- Wait for the printer's turn. -/
  | acquire
  /-- Make the spool file. -/
  | create
  /-- Write the bytes into the spool file. -/
  | fill
  /-- Delete the spool file that could not be filled. -/
  | discard
  /-- Read the spool file. -/
  | read
  | connect
  | writePayload
  | writeFlush
  | close
  /-- Delete the spool file. -/
  | release
  /-- Let the next delivery have its turn. -/
  | yieldTurn
  /-- See whether the caller is still waiting. -/
  | review
  /-- Set the final state, if the caller was still waiting. -/
  | settle (keep : Bool)
  /-- Hand out the outcome. -/
  | report
  | done
  deriving DecidableEq, Repr

/-- What became of a delivery. -/
inductive Outcome where
  | sent (bytes : Nat)
  | raised (fault : Fault)
  | cancelled
  deriving DecidableEq, Repr

/-- What the caller is told. -/
inductive Ending where
  | sent (bytes : Nat)
  /-- The caller's wait ended, or the device's. -/
  | expired
  /-- The delivery itself ran into a timeout. -/
  | busy (e : DeliveryError)
  /-- The delivery itself failed. -/
  | refused (e : DeliveryError)
  /-- A fault stopped the delivery. -/
  | broken (kind text : String)
  /-- The service is to stop. -/
  | stopped (fault : Fault)
  deriving DecidableEq, Repr

/-- One job on its way to one printer. -/
structure Delivery where
  job : PrintJob
  endpoint : String
  phase : Phase
  state : DeliveryState
  buffer : SpoolBuffer
  /-- The bytes that were read from the spool file. -/
  data : Bytes
  /-- The fault that the delivery will end with. -/
  fault : Option Fault
  /-- The writes that the printer took. -/
  written : List Bytes
  /-- How often the connection was closed. -/
  closes : Nat
  outcome : Option Outcome
  ending : Option Ending
  deriving DecidableEq, Repr

namespace Delivery

/-- A delivery that has not started. -/
def ofJob (job : PrintJob) (endpoint : String) : Delivery :=
  { job, endpoint, phase := .start, state := .idle, buffer := .ofData job.payload, data := [], fault := none,
    written := [], closes := 0, outcome := none, ending := none }

/-- The fault of a delivery whose turn does not come in time. -/
def busyFault (d : Delivery) : Fault :=
  .delivery (.timeout d.endpoint d.job.timeout (some ("Printer " ++ d.endpoint ++ " busy")))

/-- The fault of a spool file that could not be read; `#` is in the place of its name. -/
def spoolFault : SpoolError → Fault
  | .notStaged => .other "RuntimeError" "Buffer is not staged"
  | .missing => .other "FileNotFoundError" "[Errno 2] No such file or directory: '#'"

/-- The delivery after a fault, going on with a phase. -/
def failTo (d : Delivery) (phase : Phase) (fault : Fault) : Delivery := { d with phase, fault := some fault }

/-- The outcome that the delivery ends with. -/
def answer (d : Delivery) : Outcome :=
  match d.fault with
  | some fault => .raised fault
  | none => .sent d.data.length

/-- One step, which may have failed with a fault. -/
def advance (d : Delivery) (result : Option Fault) : Delivery :=
  match d.phase, result with
  | .start, _ => { d with phase := .acquire }
  | .acquire, none => { d with phase := .create }
  | .acquire, some fault => d.failTo .review fault
  | .create, none => { d with phase := .fill, buffer := d.buffer.create }
  | .create, some fault => d.failTo .yieldTurn fault
  | .fill, none => { d with phase := .read, buffer := d.buffer.fill, state := .staged }
  | .fill, some fault => d.failTo .discard fault
  | .discard, none => { d with phase := .yieldTurn, buffer := d.buffer.discard }
  | .discard, some fault => { d.failTo .yieldTurn fault with buffer := d.buffer.refuse }
  | .read, none =>
    match d.buffer.read with
    | .ok data => { d with phase := .connect, data }
    | .error e => d.failTo .release (spoolFault e)
  | .read, some fault => d.failTo .release fault
  | .connect, none => { d with phase := .writePayload, state := .transmitting }
  | .connect, some fault => d.failTo .release fault
  | .writePayload, none => { d with phase := .writeFlush, written := d.written ++ [d.data] }
  | .writePayload, some fault => d.failTo .close fault
  | .writeFlush, none => { d with phase := .close, written := d.written ++ [Command.flush] }
  | .writeFlush, some fault => d.failTo .close fault
  | .close, none => { d with phase := .release, closes := d.closes + 1 }
  | .close, some fault => { d.failTo .release fault with closes := d.closes + 1 }
  | .release, none => { d with phase := .yieldTurn, buffer := d.buffer.release }
  | .release, some fault => { d.failTo .yieldTurn fault with buffer := d.buffer.forget.refuse }
  | .yieldTurn, _ => { d with phase := .review }
  | .review, _ => { d with phase := .settle (d.state != .timedOut) }
  | .settle keep, _ =>
    let final := if d.fault.isSome then .failed else .completed
    { d with phase := .report, state := if keep then final else d.state }
  | .report, _ => { d with phase := .done, outcome := some d.answer }
  | .done, _ => d

theorem advance_done {d : Delivery} (hd : d.phase = .done) (result : Option Fault) : d.advance result = d := by
  simp [advance, hd]

/-- Cancels a delivery that has not started. -/
def cancel (d : Delivery) : Delivery :=
  if d.phase = .start then { d with phase := .done, outcome := some .cancelled } else d

/-- The caller's wait ends. -/
def expire (d : Delivery) : Delivery :=
  if d.ending.isSome then d else { d with state := .timedOut, ending := some .expired }

/-- What a caller is told of an outcome. -/
def endingOf : Outcome → Ending
  | .sent bytes => .sent bytes
  | .raised (.expired _) => .expired
  | .raised (.delivery e) =>
    match e with
    | .timeout .. => .busy e
    | .failure .. => .refused e
  | .raised (.other kind text) => .broken kind text
  | .raised fault => .stopped fault
  | .cancelled => .broken "CancelledError" ""

/-- The caller takes the outcome.  A device's wait that ended counts as its own. -/
def collect (d : Delivery) : Delivery :=
  match d.ending, d.outcome with
  | none, some outcome =>
    let ending := endingOf outcome
    { d with ending := some ending, state := if ending = .expired then .timedOut else d.state }
  | _, _ => d

/-- The error that the caller gets, if any. -/
def error? (d : Delivery) : Option Fault :=
  match d.ending with
  | none | some (.sent _) => none
  | some .expired => some (.delivery (.timeout d.endpoint d.job.timeout none))
  | some (.busy e) | some (.refused e) => some (.delivery e)
  | some (.broken kind text) => some (.delivery (.failure d.endpoint (kind ++ ": " ++ text)))
  | some (.stopped fault) => some fault

/-- Whether the delivery has the printer's turn. -/
def hasTurn (d : Delivery) : Bool :=
  match d.phase with
  | .create | .fill | .discard | .read | .connect | .writePayload | .writeFlush | .close | .release | .yieldTurn =>
    true
  | _ => false

/-! ### Running to the end -/

/-- The number of steps that a delivery can have before it. -/
def Phase.rank : Phase → Nat
  | .start => 14
  | .acquire => 13
  | .create => 12
  | .fill => 11
  | .read => 10
  | .connect => 9
  | .writePayload => 8
  | .writeFlush => 7
  | .close => 6
  | .release => 5
  | .discard => 5
  | .yieldTurn => 4
  | .review => 3
  | .settle _ => 2
  | .report => 1
  | .done => 0

/-- Takes steps until a phase is reached that `stop` names, each step with the result that `results` gives it. -/
def runUntil (stop : Phase → Bool) (results : Phase → Option Fault) : (fuel : Nat) → Delivery → Delivery
  | 0, d => d
  | fuel + 1, d => if stop d.phase then d else runUntil stop results fuel (d.advance (results d.phase))

/-- Takes all steps. -/
def run (results : Phase → Option Fault) (d : Delivery) : Delivery :=
  runUntil (fun _ => false) results (Phase.rank d.phase) d

end Delivery

end ThermalPress
