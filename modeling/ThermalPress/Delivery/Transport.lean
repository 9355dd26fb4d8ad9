import ThermalPress.Delivery.Machine
import ThermalPress.Log.Record

/-!
# Transport

A whole delivery against a printer whose behaviour is known (`deliver`), the test whether a printer can be reached
(`probe`), and what is recorded about both.  Elapsed times and the names of spool files are different in every run;
records have `#` in their place.  A print service only sees what its transport makes of a job (`Transport`), which a
printer whose behaviour is known determines.
-/

namespace ThermalPress

/-- How a printer behaves: the faults of its operations, and the step that takes longer than the caller waits, if
there is one. -/
structure PrinterBehaviour where
  connect : Option Fault
  write : Option Fault
  flush : Option Fault
  close : Option Fault
  hangsAt : Option Phase
  deriving DecidableEq, Repr

namespace PrinterBehaviour

/-- A printer that takes everything at once. -/
def sound : PrinterBehaviour := ⟨none, none, none, none, none⟩

/-- The result of a step. -/
def result (printer : PrinterBehaviour) : Phase → Option Fault
  | .connect => printer.connect
  | .writePayload => printer.write
  | .writeFlush => printer.flush
  | .close => printer.close
  | _ => none

end PrinterBehaviour

namespace Delivery

/-- Delivers a job, up to the point where the caller's wait ends, if it ends first.  It is the printer that says so, not
the length of the wait, and the turn comes at once. -/
def untilExpiry (job : PrintJob) (endpoint : String) (printer : PrinterBehaviour) : Delivery :=
  let start := ofJob job endpoint
  match printer.hangsAt with
  | some phase => runUntil (· == phase) printer.result (Phase.rank start.phase) start
  | none => run printer.result start

/-- Delivers a job. -/
def deliver (job : PrintJob) (endpoint : String) (printer : PrinterBehaviour) : Delivery :=
  let d := untilExpiry job endpoint printer
  if d.phase = .done then d.collect else run printer.result d.expire

/-- Delivers a job to a printer whose turn does not come in time, without a caller. -/
def deliverBusy (job : PrintJob) (endpoint : String) : Delivery :=
  run (fun phase => if phase = .acquire then some (ofJob job endpoint).busyFault else none) (ofJob job endpoint)

/-- A record of the transport. -/
private def record (level : LogLevel) (label message : String) : LogRecord :=
  Source.transport.record level label message

/-- What is recorded about a delivery; `label` is the job of the records. -/
def records (d : Delivery) (label : String) : List LogRecord :=
  let seconds := d.job.timeout.oneDecimal
  let size (n : Nat) := toString n ++ " bytes to " ++ d.endpoint
  let sending := record .info label ("Sending " ++ size d.job.payload.length ++ " (" ++ d.job.label ++ ", timeout " ++
    seconds ++ "s)")
  let error (message : String) := [record .error label message]
  sending :: match d.ending with
    | some (.sent bytes) => [record .info label ("Sent " ++ size bytes ++ " in #s")]
    | some .expired =>
      error ("Print to " ++ d.endpoint ++ " timed out after " ++ seconds ++ "s (" ++ d.job.label ++ ")")
    | some (.busy _) =>
      error ("Printer " ++ d.endpoint ++ " still busy after " ++ seconds ++ "s (" ++ d.job.label ++ ")")
    | some (.broken _ text) => error ("Print to " ++ d.endpoint ++ " failed (" ++ d.job.label ++ "): " ++ text)
    | _ => []

end Delivery

/-- What is recorded about a release of a spool file that is gone. -/
def SpoolBuffer.releaseRecords (buffer : SpoolBuffer) (label : String) : List LogRecord :=
  if buffer.isLost then [Source.transport.record .warning label "Spool file already gone: #"] else []

/-- Whether a printer was reached. -/
structure Probe where
  /-- Why it was not reached. -/
  reason : Option String
  closes : Nat
  records : List LogRecord
  deriving DecidableEq, Repr

/-- Whether the printer was reached. -/
def Probe.ok (p : Probe) : Bool := p.reason.isNone

/-- Connects to a printer and closes the connection at once.  Only a failed connection counts; an order to stop the
service is passed on. -/
def probe (printer : PrinterBehaviour) (label : String) : Except Fault Probe :=
  match printer.connect, printer.close with
  | some (.stop kind text), _ => .error (.stop kind text)
  | some fault, _ => .ok ⟨some ("printer_unreachable: " ++ fault.kind), 0, []⟩
  | none, some (.stop kind text) => .error (.stop kind text)
  | none, some fault =>
    .ok ⟨none, 1, [Source.transport.record .debug label ("Ignoring close error during probe: " ++ fault.text)]⟩
  | none, none => .ok ⟨none, 1, []⟩

/-- What takes jobs to a printer: the delivery that comes of a job, and of a test whether the printer can be reached. -/
structure Transport where
  deliver : PrintJob → (endpoint : String) → Delivery
  probe : (label : String) → Except Fault Probe

/-- The transport to a printer whose behaviour is known. -/
def PrinterBehaviour.transport (printer : PrinterBehaviour) : Transport where
  deliver job endpoint := Delivery.deliver job endpoint printer
  probe := ThermalPress.probe printer

instance : Coe PrinterBehaviour Transport := ⟨PrinterBehaviour.transport⟩

/-- The transport to a printer that takes everything at once. -/
def Transport.sound : Transport := PrinterBehaviour.sound.transport

end ThermalPress
