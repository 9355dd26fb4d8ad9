import ThermalPress.Json.Basic

/-!
# Forms

The fields of a form (`Form`): names with texts, in the order in which they came.  A name may come several times, and
then its first text counts (`Form.values`).  A field of a form in several parts may have no name at all.
-/

namespace ThermalPress

/-- A field of a form. -/
structure FormField where
  name : Option String
  text : String
  deriving DecidableEq, Repr

/-- The fields of a form in their order. -/
abbrev Form := List FormField

namespace Form

/-- The text of a name. -/
def find? (form : Form) (name : String) : Option String :=
  (List.find? (fun field => field.name == some name) form).map (·.text)

/-- The texts under their names, each name once with its first text. -/
def values (form : Form) : Members Json :=
  form.foldl (fun values field =>
    match field.name with
    | some name => if (values.find? name).isSome then values else values ++ [(name, .str field.text)]
    | none => values) []

/-- Whether a field has no name. -/
def hasUnnamed (form : Form) : Bool := form.any (·.name.isNone)

end Form

end ThermalPress
