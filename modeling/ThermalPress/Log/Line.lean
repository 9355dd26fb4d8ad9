import ThermalPress.Fault
import ThermalPress.Json.Printer
import ThermalPress.Log.Record
import ThermalPress.Settings.Path
import ThermalPress.Text.Casing

/-!
# Lines of the log

How a record is written (`LogLine`): as a line for readers, or as an object for programs, whichever the environment
asks for (`LogSetup.ofEnvironment`).  A line names the request and the job that a record belongs to; the innermost
label of a job counts (`innermostJob`).
-/

namespace ThermalPress

/-- The label of the innermost job, the last one in the list. -/
def innermostJob (labels : List String) : String := labels.getLast?.getD noJob

/-- The identity of requests that have none. -/
def noRequest : String := "-"

/-- The kinds of the service's own faults. -/
def ownFaultKinds : List String := [
  "PrinterError", "ValidationError", "TransmissionTimeout", "TransmissionFailure", "UnsupportedRender",
  "PayloadTooLarge"]

/-- What the log says about a fault: its kind, with its place in front if it is one of the service's own, and its
text.  Of a text of several lines the last one counts. -/
def Fault.lastLine (fault : Fault) : String :=
  let place := if ownFaultKinds.contains fault.kind then "markup_printer.core.errors." else ""
  let told := if fault.text.isEmpty then "" else ": " ++ fault.text
  String.ofList ((pieces '\n' (place ++ fault.kind ++ told).toList).getLast?.getD [])

/-- A record with what is written about it. -/
structure LogLine where
  record : LogRecord
  requestId : String
  /-- The path of the request, where it is known whether there is one. -/
  path : Option String
  /-- What was going wrong. -/
  failure : Option String
  deriving DecidableEq, Repr

namespace LogLine

/-- A record outside of any request. -/
def ofRecord (record : LogRecord) : LogLine := ⟨record, noRequest, some noRequest, none⟩

/-- The line as named values. -/
def members (line : LogLine) : Members Json :=
  let record := line.record
  let some? (name : String) (value : Option String) : Members Json := value.toList.map fun text => (name, .str text)
  [("level", .str (LogLevel.name record.level)), ("logger", .str record.logger), ("msg", .str record.message),
    ("request_id", .str line.requestId), ("job", .str record.job)] ++ some? "path" line.path ++
    some? "exc" line.failure

/-- The line as the text of an object. -/
def objectText (line : LogLine) : String := String.ofList (Json.text Json.plainForm (.obj line.members))

/-- The line for readers. -/
def plainText (line : LogLine) : String :=
  let record := line.record
  LogLevel.name record.level ++ " " ++ line.requestId ++ " " ++ record.job ++ " " ++ record.logger ++ ": " ++
    record.message

end LogLine

/-- How the log is written. -/
structure LogSetup where
  /-- The level below which records are not written. -/
  level : LogLevel
  /-- Whether lines are objects. -/
  objects : Bool
  deriving DecidableEq, Repr

namespace LogSetup

/-- The words that ask for objects. -/
def yesWords : List String := ["1", "true", "yes"]

/-- How the log is written by the environment. -/
def ofEnvironment (level : LogLevel) (environment : Environment) : LogSetup :=
  let word := (environment.lookup (Settings.environmentStart ++ "JSON_LOGS")).getD "false"
  ⟨level, yesWords.contains (lowerString word)⟩

/-- Whether records of a level are written.  Records without a level above zero never are. -/
def writes (setup : LogSetup) (level : LogLevel) : Bool := 0 < level && setup.level ≤ level

/-- The lines of the records. -/
def lines (setup : LogSetup) (records : List LogRecord) : List String :=
  (records.filter fun record => setup.writes record.level).map fun record =>
    let line := LogLine.ofRecord record
    if setup.objects then line.objectText else line.plainText

end LogSetup

end ThermalPress
