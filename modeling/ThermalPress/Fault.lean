import ThermalPress.Json.Display
import ThermalPress.Number.Quantity

/-!
# Faults

What can go wrong while bytes are sent to a printer (`Fault`).  Devices report a fault by the name of its kind and a
few details; `Fault.reported` tells the faults apart that a delivery treats in a way of their own: its own two errors
(`DeliveryError`), a device's wait that ended, and an order to stop the whole service.  A system error that comes with
its number is named by it (`systemErrorName`).
-/

namespace ThermalPress

/-- How a delivery fails. -/
inductive DeliveryError where
  /-- The printer did not take the job in time. -/
  | timeout (endpoint : String) (seconds : Quantity) (message : Option String)
  /-- The printer refused the job. -/
  | failure (endpoint reason : String)
  deriving DecidableEq, Repr

namespace DeliveryError

/-- What the error says.  An empty message counts as none. -/
def message : DeliveryError → String
  | .timeout endpoint seconds message =>
    let plain := "Print to " ++ endpoint ++ " timed out after " ++ seconds.sixDigits ++ "s"
    match message with
    | some text => if text.isEmpty then plain else text
    | none => plain
  | .failure endpoint reason => "Print to " ++ endpoint ++ " failed: " ++ reason

/-- The name of the kind of error. -/
def kind : DeliveryError → String
  | .timeout .. => "TransmissionTimeout"
  | .failure .. => "TransmissionFailure"

end DeliveryError

/-- What went wrong in a device or in the system. -/
inductive Fault where
  /-- An error of a delivery. -/
  | delivery (e : DeliveryError)
  /-- A wait that ended. -/
  | expired (text : String)
  /-- An order to stop the service. -/
  | stop (kind text : String)
  | other (kind text : String)
  deriving DecidableEq, Repr

namespace Fault

/-- The name of the kind of a wait that ended. -/
def expiredKind : String := "TimeoutError"

/-- The name of the kind of a fault. -/
def kind : Fault → String
  | .delivery e => e.kind
  | .expired _ => expiredKind
  | .stop kind _ => kind
  | .other kind _ => kind

/-- What is said about a fault. -/
def text : Fault → String
  | .delivery e => e.message
  | .expired text => text
  | .stop _ text => text
  | .other _ text => text

/-- The kinds that stop the service. -/
def stopKinds : List String := ["KeyboardInterrupt", "SystemExit", "GeneratorExit", "BaseException"]

/-- The general kind of system errors. -/
def systemErrorKind : String := "OSError"

/-- The kinds of system errors besides the general one. -/
def systemErrorKinds : List String := [
  "BlockingIOError", "BrokenPipeError", "ChildProcessError", "ConnectionAbortedError", "ConnectionError",
  "ConnectionRefusedError", "ConnectionResetError", "FileExistsError", "FileNotFoundError", "InterruptedError",
  "IsADirectoryError", "NotADirectoryError", "PermissionError", "ProcessLookupError", "TimeoutError"]

/-- The kind of a system error by its number. -/
def systemErrorName (number : Int) : String :=
  let named : List (Int × String) := [
    (1, "PermissionError"), (2, "FileNotFoundError"), (3, "ProcessLookupError"), (4, "InterruptedError"),
    (10, "ChildProcessError"), (11, "BlockingIOError"), (13, "PermissionError"), (17, "FileExistsError"),
    (20, "NotADirectoryError"), (21, "IsADirectoryError"), (32, "BrokenPipeError"),
    (103, "ConnectionAbortedError"), (104, "ConnectionResetError"), (108, "BrokenPipeError"),
    (110, expiredKind), (111, "ConnectionRefusedError"), (114, "BlockingIOError"), (115, "BlockingIOError")]
  (named.lookup number).getD systemErrorKind

/-- The text of details: none, one as it is, or several between parentheses. -/
private def detailText : List Json → List Char
  | [] => []
  | [detail] => detail.shown
  | details => Json.shownTuple details

/-- The text of a system error that comes with a number, and of the files it is about. -/
private def systemErrorText (number reason : Json) (files : List Json) : List Char :=
  let start := "[Errno ".toList ++ number.shown ++ [']', ' '] ++ reason.shown
  match files with
  | [] | .null :: _ => start
  | [file] | [file, _] => start ++ ':' :: ' ' :: file.nested
  | file :: _ :: second :: _ => start ++ ':' :: ' ' :: file.nested ++ " -> ".toList ++ second.nested

/-- The kind and the text of a fault as a device reports it. -/
private def describe (kind : String) (details : List Json) : String × List Char :=
  if kind == systemErrorKind || systemErrorKinds.contains kind then
    match details with
    | number :: reason :: files =>
      if files.length ≤ 3 then
        let named := match number with
          | .int n => if kind == systemErrorKind then systemErrorName n else kind
          | _ => kind
        (named, systemErrorText number reason files)
      else (kind, detailText details)
    | _ => (kind, detailText details)
  else if kind == "KeyError" then
    match details with
    | [detail] => (kind, detail.nested)
    | _ => (kind, detailText details)
  else (kind, detailText details)

/-- The quantity that a value stands for. -/
private def quantityOf : Json → Quantity
  | .int n => .whole n
  | .real x => .real x
  | .bool b => .whole (if b then 1 else 0)
  | _ => .whole 0

/-- The fault that a device reports. -/
def reported (kind : String) (details : List Json) : Fault :=
  let textOf (detail : Json) : String := String.ofList detail.shown
  match kind, details with
  | "TransmissionTimeout", [endpoint, seconds] => .delivery (.timeout (textOf endpoint) (quantityOf seconds) none)
  | "TransmissionTimeout", [endpoint, seconds, message] =>
    .delivery (.timeout (textOf endpoint) (quantityOf seconds) (some (textOf message)))
  | "TransmissionFailure", [endpoint, reason] => .delivery (.failure (textOf endpoint) (textOf reason))
  | _, _ =>
    let (kind, text) := describe kind details
    let text := String.ofList text
    if kind == expiredKind then .expired text
    else if stopKinds.contains kind then .stop kind text
    else .other kind text

end Fault

end ThermalPress
