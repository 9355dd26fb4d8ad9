import ThermalPress.Text.Pieces

/-!
# Routes

Which resource a path leads to (`Resource.ofPath`), and the methods with which it may be used (`Resource.methods`).  A
slash behind a path does not matter.  A path with two slashes in a row where one would do has moved to the path with
one (`Route.of`).
-/

namespace ThermalPress

/-- The resources of the service. -/
inductive Resource where
  /-- The catalogue of the service. -/
  | catalogue
  /-- Whether the service is alive. -/
  | health
  /-- Whether the printer can be reached, too. -/
  | readiness
  /-- Printing documents. -/
  | print
  /-- Printing symbols with captions. -/
  | printSymbol
  | testSymbol
  | testPrint
  /-- Printing a symbol that the query holds. -/
  | symbolLink
  /-- Printing a symbol that the query holds as an image. -/
  | imageLink
  | job (id : String)
  | file (path : String)
  deriving DecidableEq, Repr

namespace Resource

/-- The resources that have one path each, with its name. -/
def named : List (String × Resource) := [
  ("", .catalogue), ("health", .health), ("healthz", .readiness), ("print", .print), ("printqr", .printSymbol),
  ("test-qr", .testSymbol), ("test-print", .testPrint), ("test-printqr", .symbolLink), ("test-qris", .imageLink)]

/-- The resource that the names on a path lead to. -/
def ofNames : List String → Option Resource
  | ["jobs", id] | ["jobs", id, ""] => if id.isEmpty then none else some (.job id)
  | "static" :: first :: rest =>
    if first.isEmpty || ["", ""].isSuffixOf rest then none else some (.file ("/".intercalate (first :: rest)))
  | [name] | [name, ""] => named.lookup name
  | _ => none

/-- The resource that a path leads to. -/
def ofPath (path : List Char) : Option Resource := ofNames ((pieces '/' path).tail.map String.ofList)

/-- Whether a resource is there to be printed with, and not to be looked at. -/
def takesBody : Resource → Bool
  | .print | .printSymbol | .testSymbol | .testPrint => true
  | _ => false

/-- The methods with which a resource may be used, in order. -/
def methods (resource : Resource) : List String :=
  if resource.takesBody then ["OPTIONS", "POST"] else ["GET", "HEAD", "OPTIONS"]

end Resource

/-- Where a request leads. -/
inductive Route where
  | found (resource : Resource)
  /-- The path leads somewhere with one slash in place of two. -/
  | moved
  | wrongMethod (allowed : List String)
  | unknown
  deriving DecidableEq, Repr

namespace Route

/-- A path with one slash for each pair of slashes. -/
def mergeSlashes : List Char → List Char
  | '/' :: '/' :: rest => '/' :: mergeSlashes rest
  | c :: rest => c :: mergeSlashes rest
  | [] => []

/-- Where a method and a path lead. -/
def of (method : String) (path : List Char) : Route :=
  let checked (resource : Resource) (route : Route) : Route :=
    if resource.methods.contains method then route else .wrongMethod resource.methods
  match Resource.ofPath path with
  | some resource => checked resource (.found resource)
  -- only a path that leads nowhere is looked at with fewer slashes
  | none =>
    match Resource.ofPath (mergeSlashes path) with
    | some resource => checked resource .moved
    | none => .unknown

/-- The patterns of all paths with the methods of their resources, in order. -/
def table : List (String × List String) :=
  let patterns := (Resource.named.map fun (name, resource) => ("/" ++ name, resource)) ++
    [("/jobs/<job_id>", .job ""), ("/static/<path:filename>", .file "")]
  (patterns.map fun (pattern, resource) => (pattern, resource.methods)).mergeSort fun a b => decide (a.1 ≤ b.1)

end Route

end ThermalPress
