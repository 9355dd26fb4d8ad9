import ThermalPress.Json.Basic
import ThermalPress.Settings.Basic

/-!
# The catalogue

What the service tells about itself: its name and version, its printer, and its resources with examples of their use.
-/

namespace ThermalPress

namespace Catalogue

/-- The name of the service. -/
def serviceName : String := "Markup Printer"

/-- The version of the service. -/
def serviceVersion : String := "1.0.0"

/-- An object whose values are texts. -/
private def texts (members : List (String × String)) : Json :=
  .obj (members.map fun (name, text) => (name, .str text))

private def described (method path description : String) (examples : Members Json) : Json :=
  .obj ([("method", .str method), ("path", .str path)] ++
    (if description.isEmpty then [] else [("description", .str description)]) ++
    if examples.isEmpty then [] else [("examples", .obj examples)])

/-- The resources with examples. -/
private def resources : Members Json := [
  ("print", described "POST" "/print" "Print markup text or a QR code" [
    ("text", texts [("text", "<center><b>Hello Printer</b></center>")]),
    ("columns", texts [("text", "<tr><td>Item</td><td>9.99</td></tr>")]),
    ("qrcode", texts [("data_b64", "https://example.com")])]),
  ("printqr", described "POST" "/printqr" "Print a QR code with text underneath" [
    ("qr_only", texts [("qr_string", "https://example.com")]),
    ("qr_with_text", texts [("qr_string", "https://example.com"), ("text", "Scan for details")])]),
  ("testqr", described "POST" "/test-qr" "Print a small QR to check native QR support" []),
  ("testprint", described "POST" "/test-print" "Print a banner with the port and time" []),
  ("testprintqr", described "GET" "/test-printqr" "" [
    ("short", .str "/test-printqr?data=TEST"), ("with_text", .str "/test-printqr?data=TEST&text=Hello")]),
  ("testqris", described "GET" "/test-qris" "Long QR payloads printed as a raster image when it fits" [
    ("qris", .str "/test-qris?data=LONG_PAYLOAD&text=Scan to pay")]),
  ("jobs", described "GET" "/jobs/<job_id>" "" []),
  ("health", described "GET" "/health" "" [])]

/-- The catalogue of the service for a printer. -/
def members (settings : Settings) : Members Json := [
  ("name", .str serviceName), ("version", .str serviceVersion), ("status", .str "running"),
  ("port", .str settings.portName), ("line_width", .int settings.lineWidth), ("endpoints", .obj resources)]

end Catalogue

end ThermalPress
