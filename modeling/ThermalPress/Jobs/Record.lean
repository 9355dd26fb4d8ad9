import ThermalPress.Jobs.Timestamp
import ThermalPress.Json.Basic
import ThermalPress.Qr.Job

/-!
# Job records

What is kept about a print job (`JobRecord`): what it is, how far it has come, and what was learned on the way.  A
job is queued, runs, and ends in success, with a timeout or with an error.
-/

namespace ThermalPress

/-- What a job prints. -/
inductive JobKind where
  | text
  | symbol
  | captionedSymbol
  | imageSymbol
  deriving DecidableEq, Repr

/-- The word for a kind of job. -/
def JobKind.name : JobKind → String
  | .text => "text"
  | .symbol => "qrcode"
  | .captionedSymbol => "qrcode_text"
  | .imageSymbol => "qrcode_image"

/-- How far a job has come. -/
inductive JobStatus where
  | queued
  | running
  | success
  | timeout
  | error
  deriving DecidableEq, Repr

/-- The word for a status. -/
def JobStatus.name : JobStatus → String
  | .queued => "queued"
  | .running => "running"
  | .success => "success"
  | .timeout => "timeout"
  | .error => "error"

/-- What is known of the symbol of a job. -/
structure SymbolReport where
  presentation : Qr.Presentation
  fallback : Bool
  length : Nat
  truncated : Bool
  warning : Option String
  deriving DecidableEq, Repr

/-- The report of a symbol job. -/
def SymbolReport.ofJob (job : Qr.Job) : SymbolReport where
  presentation := job.presentation
  fallback := job.fallback
  length := job.frame.payload.length
  truncated := job.frame.truncated
  warning :=
    if job.frame.truncated then
      some (Qr.truncationText job.frame.dataLength job.frame.payload.length)
    else none

/-- What is kept about a job. -/
structure JobRecord where
  id : String
  kind : JobKind
  status : JobStatus
  port : String
  createdAt : Timestamp
  updatedAt : Timestamp
  /-- The beginning of a text. -/
  preview : Option String
  /-- The caption of a symbol. -/
  caption : Option String
  /-- The number of bytes sent. -/
  bytes : Option Nat
  /-- Why the job failed. -/
  error : Option String
  symbol : Option SymbolReport
  deriving DecidableEq, Repr

/-- Members for what is there. -/
private def present {α : Type} (name : String) (value : Option α) (f : α → Json) : Members Json :=
  value.toList.map fun a => (name, f a)

/-- The report as named values. -/
def SymbolReport.members (r : SymbolReport) : Members Json :=
  [("mode", .str r.presentation.name), ("fallback", .bool r.fallback), ("qr_length", .int r.length),
    ("truncated", .bool r.truncated)] ++ present "warning" r.warning .str

/-- The record as named values. -/
def JobRecord.members (r : JobRecord) : Members Json :=
  [("id", .str r.id), ("type", .str r.kind.name), ("status", .str r.status.name), ("port", .str r.port),
    ("created_at", .str r.createdAt.text), ("updated_at", .str r.updatedAt.text)] ++
    present "preview" r.preview .str ++ present "text" r.caption .str ++
    present "bytes" r.bytes (fun n => .int n) ++ present "error" r.error .str ++
    (r.symbol.map SymbolReport.members).getD []

end ThermalPress
