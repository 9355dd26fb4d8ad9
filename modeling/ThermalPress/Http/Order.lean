import ThermalPress.Http.Form
import ThermalPress.Http.Refusal
import ThermalPress.Settings.Value

/-!
# Print orders

What a caller asks to be printed, read from named values and validated: a document or a symbol alone (`DocumentOrder`),
and a symbol with a caption (`SymbolOrder`).  All that is wrong is reported together, in the order of the fields.
-/

namespace ThermalPress

/-- An order for a document or for a symbol alone. -/
structure DocumentOrder where
  /-- The data of a symbol. -/
  symbol : Option String
  text : Option String
  message : Option String
  /-- The values under other names. -/
  others : Members Json
  deriving Repr

/-- An order for a symbol with a caption. -/
structure SymbolOrder where
  data : String
  caption : String
  deriving DecidableEq, Repr

/-- The issues of a result. -/
private def issuesOf {α : Type} : Except FieldIssue α → List FieldIssue
  | .ok _ => []
  | .error e => [e]

private def orderField {α : Type} (name : String) (value : Except Issue α) : Except FieldIssue α :=
  value.mapError fun issue => ⟨some name, issue⟩

/-- A text or null. -/
private def textOrNull : Json → Except Issue (Option String)
  | .null => .ok none
  | value => value.string.map some

namespace DocumentOrder

/-- The names of the fields. -/
def fieldNames : List String := ["data_b64", "text", "message"]

/-- The text of a field that may be missing. -/
private def fieldText (values : Members Json) (name : String) : Except FieldIssue (Option String) :=
  orderField name (textOrNull ((values.find? name).getD .null))

/-- The order that a value stands for. -/
def ofValue : Json → Except (List FieldIssue) DocumentOrder
  | .obj values =>
    match fieldText values "data_b64", fieldText values "text", fieldText values "message" with
    | .ok symbol, .ok text, .ok message =>
      .ok ⟨symbol, text, message, values.filter fun (name, _) => !fieldNames.contains name⟩
    | symbol, text, message => .error (issuesOf symbol ++ issuesOf text ++ issuesOf message)
  | _ => .error [⟨none, .notAnObject "PrintRequest"⟩]

private theorem fieldText_of_text {values : Members Json} {name : String}
    (h : ∀ value, values.find? name = some value → ∃ text, value = .str text) :
    fieldText values name = .ok ((values.find? name).bind Json.text?) := by
  unfold fieldText
  cases hvalue : values.find? name with
  | none => rfl
  | some value =>
    obtain ⟨text, rfl⟩ := h value hvalue
    rfl

/-- Fields that hold texts, or are not there, make an order. -/
theorem ofValue_of_texts {values : Members Json}
    (h : ∀ name ∈ fieldNames, ∀ value, values.find? name = some value → ∃ text, value = .str text) :
    ofValue (.obj values) = .ok ⟨(values.find? "data_b64").bind Json.text?, (values.find? "text").bind Json.text?,
      (values.find? "message").bind Json.text?, values.filter fun (name, _) => !fieldNames.contains name⟩ := by
  unfold ofValue
  dsimp only
  rw [fieldText_of_text (h "data_b64" (by decide)), fieldText_of_text (h "text" (by decide)),
    fieldText_of_text (h "message" (by decide))]

/-- The order that a form stands for.  Every field must have a name. -/
def ofForm (form : Form) : Except (List FieldIssue) DocumentOrder :=
  if form.hasUnnamed then .error [⟨none, .unnamed⟩] else ofValue (.obj form.values)

/-- Whether the order is for a symbol. -/
def isSymbol (order : DocumentOrder) : Bool := !(order.symbol.getD "").isEmpty

/-- The document of an order: its text, else its message.  An empty one is passed over. -/
def document? (order : DocumentOrder) : Option String :=
  let nonempty (t : Option String) := t.filter (!·.isEmpty)
  (nonempty order.text).or (nonempty order.message)

end DocumentOrder

namespace SymbolOrder

/-- The data of a symbol, which must not be blank. -/
private def dataOf : Option Json → Except Issue String
  | none => .error .missing
  | some value => do
    let data ← value.string
    if isBlankText data.toList then .error (.refused "qr_string must not be empty") else .ok data

/-- The order that a value stands for.  A missing caption is empty. -/
def ofValue : Json → Except (List FieldIssue) SymbolOrder
  | .obj values =>
    match orderField "qr_string" (dataOf (Members.find? values "qr_string")),
        orderField "text" (textOrNull ((Members.find? values "text").getD .null)) with
    | .ok data, .ok caption => .ok ⟨data, caption.getD ""⟩
    | data, caption => .error (issuesOf data ++ issuesOf caption)
  | _ => .error [⟨none, .notAnObject "PrintQrRequest"⟩]

end SymbolOrder

end ThermalPress
