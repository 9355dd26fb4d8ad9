import ThermalPress.Json.Parser
import ThermalPress.Settings.Path
import ThermalPress.Settings.Validation

/-!
# Resolving settings

Settings come from three sources: the configuration file, environment variables and explicit values.  For each
setting the last of them that gives a value wins (`Sources.merged`), and only then are the values validated
(`Settings.resolve`).
-/

namespace ThermalPress

/-- Why a document holds no named values. -/
inductive DocumentError where
  | notASequence (kind : String)
  | elementNotASequence (position : Nat)
  | elementLength (position length : Nat)
  | nameNotHashable (kind : String)
  deriving DecidableEq, Repr

/-- What the error says. -/
def DocumentError.message : DocumentError → String
  | .notASequence kind => "'" ++ kind ++ "' object is not iterable"
  | .elementNotASequence position =>
    "cannot convert dictionary update sequence element #" ++ toString position ++ " to a sequence"
  | .elementLength position length =>
    "dictionary update sequence element #" ++ toString position ++ " has length " ++ toString length ++
      "; 2 is required"
  | .nameNotHashable kind => "unhashable type: '" ++ kind ++ "'"

namespace Json

/-- The parts of a value that has parts. -/
def parts? : Json → Option (List Json)
  | .str s => some (s.toList.map fun c => .str (String.singleton c))
  | .arr items => some items
  | .obj members => some (members.map fun (name, _) => .str name)
  | _ => none

/-- Named values from a list of pairs.  Names that are no texts name nothing. -/
private def membersOfPairs : (position : Nat) → List Json → Except DocumentError (Members Json)
  | _, [] => .ok []
  | position, pair :: pairs =>
    match pair.parts? with
    | none => .error (.elementNotASequence position)
    | some [.str name, value] => return (name, value) :: (← membersOfPairs (position + 1) pairs)
    | some [name, _] =>
      match name with
      | .arr _ | .obj _ => .error (.nameNotHashable name.kindName)
      | _ => membersOfPairs (position + 1) pairs
    | some parts => .error (.elementLength position parts.length)

/-- The named values of a document: the members of an object, or pairs of a name and a value. -/
def namedValues : Json → Except DocumentError (Members Json)
  | .obj members => .ok members
  | value =>
    if value.isEmptyValue then .ok []
    else match value.parts? with
      | some pairs => membersOfPairs 0 pairs
      | none => .error (.notASequence value.kindName)

end Json

/-- Where settings come from. -/
structure Sources where
  file : Members Json
  environment : Environment
  overrides : Members Json

namespace Settings

/-- The environment variable of a setting. -/
def environmentName (name : String) : String := environmentStart ++ name.toUpper

variable [Codecs]

/-- The values that the environment gives. -/
def environmentValues (environment : Environment) : Members Json :=
  names.filterMap fun name => (environment.lookup (environmentName name)).map fun value => (name, .str value)

end Settings

variable [Codecs]

/-- The values of all sources, the later ones in place of the earlier ones. -/
def Sources.merged (sources : Sources) : Members Json :=
  ((Members.putAll [] sources.file).putAll (Settings.environmentValues sources.environment)).putAll sources.overrides

/-- Why no settings could be resolved. -/
inductive ResolveError where
  | json (e : JsonError)
  | document (e : DocumentError)
  | values (issues : List FieldIssue)
  deriving DecidableEq, Repr

namespace Settings

/-- The settings of the sources. -/
def resolve (sources : Sources) : Except (List FieldIssue) Settings := validate sources.merged

/-- A text as a file hands it out: every kind of line end is a line feed. -/
def readLines : List Char → List Char
  | [] => []
  | '\r' :: '\n' :: rest => '\n' :: readLines rest
  | '\r' :: rest => '\n' :: readLines rest
  | c :: rest => c :: readLines rest

/-- The value in the text of a configuration file. -/
def readFile (text : List Char) : Except JsonError Json := Json.parse (readLines text)

/-- The settings of a configuration file, if there is one, the environment and explicit values. -/
def resolveFrom (file : Option (List Char)) (environment : Environment) (overrides : Members Json) :
    Except ResolveError Settings := do
  let document ← match file with
    | none => .ok .null
    | some text => (readFile text).mapError .json
  let values ← document.namedValues.mapError .document
  (resolve ⟨values, environment, overrides⟩).mapError .values

end Settings

end ThermalPress
