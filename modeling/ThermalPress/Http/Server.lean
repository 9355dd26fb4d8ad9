import ThermalPress.Http.Catalogue
import ThermalPress.Http.Order
import ThermalPress.Http.Request
import ThermalPress.Http.Response
import ThermalPress.Http.Route
import ThermalPress.Jobs.Service
import ThermalPress.Json.Printer
import ThermalPress.Number.Integer
import ThermalPress.Settings.Path

/-!
# The server

A server answers requests with the help of a print service (`Server.handle`).  A print is answered when it is over:
200 for a printed job, 400 for what is blank or cannot be read, 504 for a printer that did not take the job in time,
and 500 for every other failure (`Server.responseTo`).  Bodies longer than a limit are refused with 413 before they
are read, and what cannot be read is answered by the framework (`Server.printBody`).
-/

namespace ThermalPress

/-- A server. -/
structure Server where
  service : Service
  /-- The number of bytes that a body may have. -/
  bodyLimit : Option Int
  deriving DecidableEq, Repr

/-- What came of a request: the response, or an order to stop the service, the delivery if there was one, and the
records of the log. -/
structure Exchange where
  response : Except Fault Response
  delivery : Option Delivery
  records : List LogRecord

namespace Server

/-- The number of bytes that a body may have, unless the environment says another one. -/
def defaultBodyLimit : Int := 1024 * 1024

/-- The number of bytes that a body may have, by the environment. -/
def bodyLimitOf (environment : Environment) : Except IntegerError Int :=
  match environment.lookup (Settings.environmentStart ++ "MAX_CONTENT_LENGTH") with
  | some text => Integer.read 10 text
  | none => .ok defaultBodyLimit

/-- What is recorded when a server starts. -/
def startRecord (settings : Settings) : LogRecord :=
  Source.application.record .info noJob
    (Catalogue.serviceName ++ " app created (printer " ++ settings.endpointName ++ ")")

/-- A response without a delivery. -/
def plain (response : Response) : Exchange := ⟨.ok response, none, []⟩

/-- The response to a print, and what is recorded with it; `message` and `data` are told of a printed job. -/
def responseTo (result : Except PrintError Receipt) (message : String) (data : Receipt → Members Json) :
    Except Fault Response × List LogRecord :=
  let failed (status : Nat) (about : String) (e : PrintError) : Except Fault Response × List LogRecord :=
    (.ok (.failure status e.message), [Source.application.record .error noJob (about ++ e.message)])
  match result with
  | .ok receipt =>
    let warning := (receipt.symbol.bind (·.warning)).toList.map fun text => ("warning", Json.str text)
    (.ok (.json 200 ([("success", .bool true), ("message", .str message), ("job_id", .str receipt.id),
      ("data", .obj (data receipt))] ++ warning)), [])
  | .error e@(.blank _) => (.ok (.failure 400 e.message), [])
  | .error (.fault (.stop kind text)) => (.error (.stop kind text), [])
  | .error e@(.fault (.delivery (.timeout ..))) => failed 504 "Print timed out: " e
  | .error e@(.fault (.delivery (.failure ..))) => failed 500 "Print failed: " e
  | .error e => failed 500 "Unexpected print error: " e

/-- The answer to a print. -/
def printed (done : Service × PrintReport) (message : String) (data : Receipt → Members Json) :
    Service × Exchange :=
  let (service, report) := done
  let (response, records) := responseTo report.result message data
  (service, ⟨response, report.delivery, report.records ++ records⟩)

/-- What a body asks to be printed. -/
inductive PrintBody where
  | document (s : List Char)
  | symbol (data : String)
  | refused (issues : List FieldIssue)
  | unreadable

section Bodies

variable [Framework]

/-- A document that is the text of a value.  One that cannot be written is a failure of the server. -/
def writtenBody (value : Json) : Except Nat PrintBody :=
  if Framework.writes value then .ok (.document (Json.text Json.plainForm value)) else .error 500

/-- What an order that was read from `value` asks to be printed.  Without a text of its own it is the value itself. -/
def orderBody (order : Except (List FieldIssue) DocumentOrder) (value : Json) : Except Nat PrintBody :=
  match order with
  | .error issues => .ok (.refused issues)
  | .ok order =>
    if order.isSymbol then .ok (.symbol (order.symbol.getD ""))
    else match order.document? with
      | some text => .ok (.document text.toList)
      | none => writtenBody value

/-- What the body of a request asks to be printed. -/
def printBody (request : Request) : Except Nat PrintBody := do
  if Framework.isJson request then
    match ← Framework.json? request with
    | none | some .null => return .unreadable
    | some (.obj values) => orderBody (DocumentOrder.ofValue (.obj values)) (.obj values)
    | some (.str text) => return .document text.toList
    | some value => writtenBody value
  else
    match ← Framework.form request with
    | [] => return .document (← Framework.text request)
    | form => orderBody (DocumentOrder.ofForm form) (.obj form.values)

/-- The named values of a body; a body without any has none. -/
def symbolValues (request : Request) : Except Nat Json := do
  match ← Framework.json? request with
  | some (.obj values) => return .obj values
  | _ => return .obj (← Framework.form request).values

/-- The named values of a link to a symbol. -/
def linkValues (request : Request) : Json :=
  let form := Framework.query request
  .obj [("qr_string", .str ((form.find? "data").getD "")), ("text", .str ((form.find? "text").getD ""))]

end Bodies

variable [Codecs] [Qr.Renderer] [Framework]

/-- Prints a document. -/
def printDocument (service : Service) (text : List Char) (transport : Transport) : Service × Exchange :=
  let text := String.ofList text
  printed (service.printText (.str text) none none none transport) "Document printed" fun _ =>
    [("type", .str JobKind.text.name), ("text", .str text), ("port", .str service.settings.portName)]

/-- What is told of a printed symbol. -/
def symbolMessage : String := "QR code printed"

/-- Prints a symbol alone. -/
def printBareSymbol (service : Service) (data : String) (transport : Transport) : Service × Exchange :=
  printed (service.printSymbol (.str data) none transport) symbolMessage fun receipt =>
    [("type", .str JobKind.symbol.name), ("data", .str data), ("port", .str service.settings.portName),
      ("truncated", .bool ((receipt.symbol.map (·.truncated)).getD false))]

/-- Answers a request to print a document or a symbol alone. -/
def printRequest (service : Service) (request : Request) (transport : Transport) : Service × Exchange :=
  match printBody request with
  | .error status => (service, plain (.bare status))
  | .ok .unreadable => (service, plain (.failure 400 "Invalid JSON body"))
  | .ok (.refused issues) => (service, plain (.failure 400 (Refusal.ofIssues issues)))
  | .ok (.symbol data) => printBareSymbol service data transport
  | .ok (.document s) => printDocument service s transport

/-- Answers a request to print a symbol with a caption. -/
def printSymbolOrder (service : Service) (value : Json) (image : Bool) (transport : Transport) :
    Service × Exchange :=
  match SymbolOrder.ofValue value with
  | .error issues => (service, plain (.failure 400 (Refusal.ofIssues issues)))
  | .ok order =>
    let done :=
      if image then service.printImage (.str order.data) order.caption none transport
      else service.printCaptioned (.str order.data) order.caption none transport
    printed done symbolMessage fun receipt =>
      [("qr_string", .str order.data), ("text", .str order.caption),
        ("mode", (receipt.symbol.map fun s => Json.str s.presentation.name).getD .null),
        ("qr_length", (receipt.symbol.map fun s => Json.int s.length).getD .null),
        ("port", .str service.settings.portName)]

/-- What to do after a test symbol. -/
private def instructions : Members Json := [
  ("step1", .str "Check the printer output"),
  ("step2", .str "QR symbol above 'QR Test: TEST' means native QR is supported"),
  ("step3", .str "Only the text 'QR Test: TEST' means native QR is NOT supported; try /test-qris")]

/-- A response with the instructions, if it tells of a printed job. -/
def instructed (response : Response) : Response :=
  match response.status, response.body with
  | 200, some (.obj members) =>
    { response with body := some (.obj (members ++ [("instructions", .obj instructions)])) }
  | _, _ => response

/-- Whether the printer can be reached, and the number of jobs. -/
def readiness (service : Service) (transport : Transport) : Exchange :=
  match transport.probe noJob with
  | .error fault => ⟨.error fault, none, []⟩
  | .ok p =>
    let status := if p.ok then "ok" else "degraded"
    let reason := (p.reason.filter (!·.isEmpty)).toList.map fun text => ("reason", Json.str text)
    ⟨.ok (.json 200 ([("status", .str status), ("endpoint", .str service.settings.endpointName),
      ("recent_jobs", .int service.registry.jobs.length), ("printer_ok", .bool p.ok)] ++ reason)), none, p.records⟩

/-- Answers a request for a resource. -/
def answer (server : Server) (resource : Resource) (request : Request) (localTime : Timestamp)
    (transport : Transport) : Service × Exchange :=
  let service := server.service
  let settings := service.settings
  let sized (go : Service × Exchange) : Service × Exchange :=
    if Framework.exceeds request server.bodyLimit then (service, plain (.bare 413)) else go
  match resource with
  | .catalogue => (service, plain (.json 200 (Catalogue.members settings)))
  | .health => (service, plain (.json 200 [("status", .str "ok"), ("port", .str settings.portName)]))
  | .readiness => (service, readiness service transport)
  | .print => sized (printRequest service request transport)
  | .printSymbol =>
    sized <| match symbolValues request with
      | .ok values => printSymbolOrder service values false transport
      | .error status => (service, plain (.bare status))
  | .testSymbol =>
    let (service, exchange) := printed (service.printTestSymbol transport) "QR capability test sent" fun receipt =>
      [("test_data", (receipt.testData.map Json.str).getD .null), ("port", .str settings.portName)]
    (service, { exchange with response := exchange.response.map instructed })
  | .testPrint =>
    printed (service.printTest localTime transport) "Test print sent" fun _ =>
      [("type", .str JobKind.text.name), ("port", .str settings.portName)]
  | .symbolLink => printSymbolOrder service (linkValues request) false transport
  | .imageLink => printSymbolOrder service (linkValues request) true transport
  | .job id =>
    match service.registry.get? id with
    | some record => (service, plain (.json 200 record.members))
    | none => (service, plain (.failure 404 "not_found"))
  | .file _ => (service, plain (.bare 404))

/-- Answers a request at some local time. -/
def handle (server : Server) (request : Request) (localTime : Timestamp) (transport : Transport) :
    Server × Exchange :=
  let method := request.method.toUpper
  match Route.of method request.target.path with
  | .moved => (server, plain (.bare 308))
  | .wrongMethod allowed => (server, plain (.methods 405 allowed))
  | .unknown => (server, plain (.bare 404))
  | .found resource =>
    if method == "OPTIONS" then (server, plain (.methods 200 resource.methods))
    else
      let (service, exchange) := server.answer resource request localTime transport
      let response := if method == "HEAD" then exchange.response.map Response.withoutBody else exchange.response
      ({ server with service }, { exchange with response })

end Server

end ThermalPress
