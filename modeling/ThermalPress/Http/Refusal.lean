import ThermalPress.Json.Display
import ThermalPress.Settings.Issue

/-!
# Refusals in one sentence

What a caller is told of a refused request: the first thing that is wrong with it (`Refusal.text`).  The things wrong
are given as values with a type, a place and a message, as they are reported everywhere; values of another shape are
reported by the text of the refusal itself, as far as they can be looked into at all.
-/

namespace ThermalPress

/-- Why a report of what is wrong cannot be looked into. -/
inductive ReportError where
  /-- There is no first thing in it. -/
  | noSuchKey
  /-- The first thing has no named parts. -/
  | noNamedParts (kind : String)
  deriving DecidableEq, Repr

/-- What the error says. -/
def ReportError.message : ReportError → String
  | .noSuchKey => "0"
  | .noNamedParts kind => "'" ++ kind ++ "' object has no attribute 'get'"

/-- The report of an issue. -/
def FieldIssue.report (i : FieldIssue) : Json :=
  .obj [("loc", .arr (i.field.toList.map .str)), ("type", .str i.issue.code), ("msg", .str i.issue.message)]

namespace Json

/-- The first part of a value that has parts in an order, nothing if there is none, and an error for a value whose
parts have names. -/
def firstPart? : Json → Except ReportError (Option Json)
  | .arr items => .ok items.head?
  | .str s => .ok (s.toList.head?.map fun c => .str (String.singleton c))
  | .obj _ => .error .noSuchKey
  | _ => .ok none

end Json

namespace Refusal

/-- What the message of an issue may start with and the caller is not told. -/
def messageStart : String := "Value error, "

private def withoutStart (s : List Char) : List Char :=
  if messageStart.toList.isPrefixOf s then s.drop messageStart.length else s

/-- What is said about one thing that is wrong; `text` is what the refusal itself says. -/
private def issueText (text : List Char) (issue : Members Json) : Except ReportError (List Char) := do
  let place := ((issue.find? "loc").getD .null)
  if issue.find? "type" == some (.str "missing") && !place.isEmptyValue then
    match ← place.firstPart? with
    | some part => return part.shown ++ " is required".toList
    | none => return text
  else
    let message := (issue.find? "msg").getD .null
    return withoutStart (if message.isEmptyValue then text else message.shown)

/-- What a caller is told of a refusal that says `text` and reports what is wrong in `report`. -/
def text (text : List Char) (report : Json) : Except ReportError (List Char) := do
  match ← report.firstPart? with
  | none => return text
  | some (.obj issue) => issueText text issue
  | some other => .error (.noNamedParts other.kindName)

/-- What a caller is told of issues. -/
def ofIssues (issues : List FieldIssue) : String :=
  match Refusal.text [] (.arr (issues.map FieldIssue.report)) with
  | .ok text => String.ofList text
  | .error e => e.message

end Refusal

end ThermalPress
