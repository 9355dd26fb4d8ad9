import ThermalPress.Settings.Basic
import ThermalPress.Settings.Value

/-!
# Validating settings

Settings from named values (`Settings.validate`).  Each setting has a rule that reads its value and refuses what
does not fit; a setting without a value keeps its default, and values under other names are not looked at.  All
refusals are reported together, in the order of the rules.
-/

namespace ThermalPress

variable [Codecs]

/-- A whole number between two bounds. -/
def wholeBetween (least : Int) (most : Int) (value : Json) : Except Issue Int := do
  let n ← value.whole
  if n < least then .error (.atLeast least)
  else if most < n then .error (.atMost most)
  else .ok n

/-- A text that is not empty. -/
def nonemptyString (value : Json) : Except Issue String := do
  let s ← value.string
  if s.isEmpty then .error .tooShort else .ok s

/-- A text; a blank one counts as none. -/
def optionalString : Json → Except Issue (Option String)
  | .null => .ok none
  | value => do
    let s ← value.string
    return if isBlankText s.toList then none else some s

/-- The width of a line, which must be one that a raster width is known for. -/
def lineWidthOf (value : Json) : Except Issue Int := do
  let n ← value.whole
  if n ∈ Settings.dotsPerLine.map (·.1) then .ok n else .error (.refused "line_width must be 32 or 48")

/-- The name of an encoding. -/
def encodingNameOf (value : Json) : Except Issue String := do
  let name ← value.string
  match Codecs.lookup name with
  | .ok () => .ok name
  | .error (.unknown _) => .error (.refused (EncodingError.unknown name).message)
  | .error e => .error (.refused e.message)

/-- The kind of an attachment. -/
def attachmentOf (value : Json) : Except Issue Attachment :=
  match value with
  | .str s =>
    match Attachment.known.find? (·.name == s) with
    | some kind => .ok kind
    | none => .error (.unlisted (Attachment.known.map (·.name)))
  | _ => .error (.unlisted (Attachment.known.map (·.name)))

/-- A number of seconds to wait. -/
def waitOf (value : Json) : Except Issue Binary64 := do
  let x ← value.number
  if x.isPositive then .ok x else .error .notPositive

/-- How the value of a setting changes the settings. -/
abbrev SettingRule := Settings → Json → Except Issue Settings

namespace Settings

/-- The settings by name, each with its rule. -/
def rules : List (String × SettingRule) := [
  ("printer_type", fun s v => return { s with attachment := ← attachmentOf v }),
  ("port_name", fun s v => return { s with portName := ← nonemptyString v }),
  ("serial_baudrate", fun s v => return { s with serialBaudrate := ← v.whole }),
  ("usb_vendor_id", fun s v => return { s with usbVendorId := ← v.string }),
  ("usb_product_id", fun s v => return { s with usbProductId := ← v.string }),
  ("network_ip", fun s v => return { s with networkIp := ← v.string }),
  ("network_port", fun s v => return { s with networkPort := ← v.whole }),
  ("printer_profile", fun s v => return { s with printerProfile := ← optionalString v }),
  ("line_width", fun s v => return { s with lineWidth := ← lineWidthOf v }),
  ("line_spacing", fun s v => return { s with lineSpacing := ← wholeBetween 0 255 v }),
  ("top_margin_lines", fun s v => return { s with topMarginLines := ← wholeBetween 0 50 v }),
  ("auto_feed_lines", fun s v => return { s with autoFeedLines := ← wholeBetween 0 50 v }),
  ("encoding", fun s v => return { s with encoding := ← encodingNameOf v }),
  ("max_qr_length", fun s v => return { s with maxQrLength := ← wholeBetween 1 7089 v }),
  ("qr_size", fun s v => return { s with qrSize := ← wholeBetween 1 16 v }),
  ("qr_error_level", fun s v => return { s with qrErrorLevel := ← wholeBetween 48 51 v }),
  ("raster_max_width", fun s v =>
    match v with
    | .null => .ok { s with rasterMaxWidth := none }
    | v => do
      let n ← v.whole
      if n < 8 then .error (.atLeast 8) else .ok { s with rasterMaxWidth := some n }),
  ("print_timeout", fun s v => return { s with printTimeout := ← waitOf v }),
  ("spool_dir", fun s v => return { s with spoolDir := ← optionalString v })]

/-- The names of the settings. -/
def names : List String := rules.map (·.1)

/-- Applies one rule to the settings and the issues found so far. -/
def applyRule (values : Members Json) (found : Settings × List FieldIssue) (rule : String × SettingRule) :
    Settings × List FieldIssue :=
  match values.find? rule.1 with
  | none => found
  | some value =>
    match rule.2 found.1 value with
    | .ok settings => (settings, found.2)
    | .error issue => (found.1, found.2 ++ [⟨some rule.1, issue⟩])

/-- The settings that the values stand for, or all that is wrong with them. -/
def validate (values : Members Json) : Except (List FieldIssue) Settings :=
  match rules.foldl (applyRule values) ({}, []) with
  | (settings, []) => .ok settings
  | (_, issues) => .error issues

/-- The value of a setting, as it would be given. -/
def values (s : Settings) : Members Json :=
  let text (t : Option String) : Json := t.elim .null .str
  [("printer_type", .str s.attachment.name), ("port_name", .str s.portName),
    ("serial_baudrate", .int s.serialBaudrate), ("usb_vendor_id", .str s.usbVendorId),
    ("usb_product_id", .str s.usbProductId), ("network_ip", .str s.networkIp), ("network_port", .int s.networkPort),
    ("printer_profile", text s.printerProfile), ("line_width", .int s.lineWidth),
    ("line_spacing", .int s.lineSpacing), ("top_margin_lines", .int s.topMarginLines),
    ("auto_feed_lines", .int s.autoFeedLines), ("encoding", .str s.encoding), ("max_qr_length", .int s.maxQrLength),
    ("qr_size", .int s.qrSize), ("qr_error_level", .int s.qrErrorLevel),
    ("raster_max_width", s.rasterMaxWidth.elim .null .int), ("print_timeout", .real s.printTimeout),
    ("spool_dir", text s.spoolDir)]

/-- Settings are not changed in place: an assignment to any of them is refused. -/
def assign (name : String) : FieldIssue := ⟨some name, .frozen⟩

/-- The settings with some values replaced as they are given, without a check of their range. -/
def amend (s : Settings) (changes : Members Json) : Settings :=
  changes.foldl (fun s change =>
    match change with
    | ("printer_type", .str v) => { s with attachment := Attachment.ofName v }
    | ("port_name", .str v) => { s with portName := v }
    | ("serial_baudrate", .int v) => { s with serialBaudrate := v }
    | ("usb_vendor_id", .str v) => { s with usbVendorId := v }
    | ("usb_product_id", .str v) => { s with usbProductId := v }
    | ("network_ip", .str v) => { s with networkIp := v }
    | ("network_port", .int v) => { s with networkPort := v }
    | ("printer_profile", .null) => { s with printerProfile := none }
    | ("printer_profile", .str v) => { s with printerProfile := some v }
    | ("line_width", .int v) => { s with lineWidth := v }
    | ("line_spacing", .int v) => { s with lineSpacing := v }
    | ("top_margin_lines", .int v) => { s with topMarginLines := v }
    | ("auto_feed_lines", .int v) => { s with autoFeedLines := v }
    | ("encoding", .str v) => { s with encoding := v }
    | ("max_qr_length", .int v) => { s with maxQrLength := v }
    | ("qr_size", .int v) => { s with qrSize := v }
    | ("qr_error_level", .int v) => { s with qrErrorLevel := v }
    | ("raster_max_width", .null) => { s with rasterMaxWidth := none }
    | ("raster_max_width", .int v) => { s with rasterMaxWidth := some v }
    | ("print_timeout", .real v) => { s with printTimeout := v }
    | ("print_timeout", .int v) => { s with printTimeout := Binary64.ofInt v }
    | ("spool_dir", .null) => { s with spoolDir := none }
    | ("spool_dir", .str v) => { s with spoolDir := some v }
    | _ => s) s

end Settings

end ThermalPress
