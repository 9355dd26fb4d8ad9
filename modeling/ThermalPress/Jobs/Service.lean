import ThermalPress.Delivery.Transport
import ThermalPress.Jobs.Registry
import ThermalPress.Json.Display
import ThermalPress.Markup.Compile

/-!
# The print service

A print service keeps the settings of one printer and a registry of jobs (`Service`).  Printing refuses what is blank,
then creates a job, builds its bytes and delivers them, and the record follows each step: `queued`, `running`, and how
it ended.  A job whose record is gone meanwhile is still printed, and the caller gets a receipt with what is known
without it (`Receipt`).
-/

namespace ThermalPress

/-- A print service. -/
structure Service where
  settings : Settings
  registry : Registry
  clock : Clock
  /-- The number of jobs created so far. -/
  created : Nat
  deriving DecidableEq, Repr

/-- Why nothing was printed. -/
inductive PrintError where
  /-- What was to be printed is blank. -/
  | blank (what : String)
  | job (e : JobError)
  | fault (f : Fault)
  deriving DecidableEq, Repr

/-- What the error says. -/
def PrintError.message : PrintError → String
  | .blank what => what ++ " must not be empty"
  | .job e => e.message
  | .fault f => f.text

/-- What a caller is told of a printed job. -/
structure Receipt where
  id : String
  /-- The record, if it is still there. -/
  record : Option JobRecord
  symbol : Option SymbolReport
  /-- The data of a test symbol. -/
  testData : Option String
  deriving DecidableEq, Repr

/-- The receipt as named values. -/
def Receipt.members (r : Receipt) : Members Json :=
  let known := match r.record with
    | some record => record.members
    | none =>
      [("id", .str r.id), ("status", .str JobStatus.success.name)] ++ (r.symbol.map SymbolReport.members).getD []
  known ++ r.testData.toList.map fun data => ("test_data", .str data)

/-- What came of a call: the receipt or an error, the delivery if there was one, and the records of the log. -/
structure PrintReport where
  result : Except PrintError Receipt
  delivery : Option Delivery
  records : List LogRecord

/-- The bytes of a job, and what was recorded while they were built. -/
structure Build (α : Type) where
  result : Except JobError α
  records : List LogRecord

namespace Service

/-- A service without jobs. -/
def ofSettings (settings : Settings) (limit : Nat) (clock : Clock) : Service := ⟨settings, .empty limit, clock, 0⟩

/-- The identity of the job with that number. -/
def jobId (number : Nat) : String := String.ofList (hexDigits 8 number ++ List.replicate 24 '0')

/-- The name of a job in messages. -/
def jobLabel (kind : JobKind) (id : String) : String := kind.name ++ "-" ++ String.ofList (id.toList.take 8)

/-- Creates a job; `fill` completes its record. -/
def openJob (service : Service) (kind : JobKind) (fill : JobRecord → JobRecord) : String × Service :=
  let id := jobId (service.created + 1)
  let (now, clock) := service.clock.read
  let record : JobRecord :=
    { id, kind, status := .queued, port := service.settings.portName, createdAt := now, updatedAt := now,
      preview := none, caption := none, bytes := none, error := none, symbol := none }
  (id, { service with clock, created := service.created + 1, registry := service.registry.create (fill record) })

/-- Changes the record of a job, if it is there. -/
def changeJob (service : Service) (id : String) (change : JobRecord → JobRecord) : Service :=
  if service.registry.contains id then
    let (now, clock) := service.clock.read
    { service with clock, registry := service.registry.update id now change }
  else service

/-- A record of the service. -/
private def record (level : LogLevel) (label message : String) : LogRecord :=
  Source.service.record level label message

/-- The record of a job that ended with an error of its delivery. -/
def faultStatus? : Fault → Option JobStatus
  | .delivery (.timeout ..) => some .timeout
  | .stop .. => none
  | _ => some .error

/-- Changes a record at the end of a failed delivery.  An order to stop the service leaves the record as it is. -/
def closeFailed (service : Service) (id : String) (fault : Fault) : Service :=
  match faultStatus? fault with
  | some status => service.changeJob id fun job => { job with status, error := some fault.text }
  | none => service

/-- Creates a job, builds its bytes and delivers them to a printer. -/
def run {α : Type} (service : Service) (kind : JobKind) (fill : JobRecord → JobRecord) (timeout : Option Quantity)
    (build : (label : String) → Build α) (bytesOf : α → Bytes) (transport : Transport) :
    Service × Except PrintError (String × α) × Option Delivery × List LogRecord :=
  let (id, service) := service.openJob kind fill
  let label := jobLabel kind id
  let built := build label
  match built.result with
  | .error e =>
    let service := service.changeJob id fun job => { job with status := .error, error := some e.message }
    (service, .error (.job e), none, built.records)
  | .ok product =>
    let payload := bytesOf product
    let service := service.changeJob id fun job => { job with status := .running, bytes := some payload.length }
    let compiled := record .debug label ("Compiled " ++ toString payload.length ++ " bytes")
    let limit := timeout.getD (.real service.settings.printTimeout)
    let delivery := transport.deliver ⟨payload, limit, label⟩ service.settings.endpointName
    let records := built.records ++ compiled :: delivery.records label
    match delivery.error? with
    | some fault => (service.closeFailed id fault, .error (.fault fault), some delivery, records)
    | none =>
      let service := service.changeJob id fun job => { job with status := .success }
      (service, .ok (id, product), some delivery, records)

/-- The text of a value, if it is not blank. -/
def nonblankText (what : String) (value : Json) : Except PrintError (List Char) :=
  match value with
  | .null => .error (.blank what)
  | value => if isBlankText value.shown then .error (.blank what) else .ok value.shown

/-- The preview of a text in a message. -/
private def quotedPreview (limit : Int) (s : List Char) : String :=
  "\"" ++ String.ofList (preview limit s) ++ "\""

variable [Codecs] [Qr.Renderer]

/-- Builds a text job. -/
def buildText (settings : Settings) (text : List Char) (topMargin bottomFeed : Option Int)
    (label : String) : Build Bytes :=
  let dropped := match documentRows settings (.text text) with
    | .error _ => []
    | .ok rows => rows.filterMap fun row =>
      if droppedCells row = 0 then none
      else some (Source.markup.record .debug label
        ("Dropping " ++ toString (droppedCells row) ++ " extra column(s) beyond the second"))
  ⟨textJob settings (.text text) topMargin bottomFeed, dropped⟩

/-- A report without a job. -/
def refuse (service : Service) (e : PrintError) : Service × PrintReport := (service, ⟨.error e, none, []⟩)

/-- Prints a document. -/
def printText (service : Service) (document : Json) (topMargin bottomFeed : Option Int) (timeout : Option Quantity)
    (transport : Transport) : Service × PrintReport :=
  match nonblankText "text" document with
  | .error e => service.refuse e
  | .ok text =>
    let lines := text.count '\n' + 1
    let asked := record .info noJob
      ("Print request (" ++ toString lines ++ " lines): " ++ quotedPreview previewLimit text)
    let fill (job : JobRecord) : JobRecord :=
      { job with preview := some (String.ofList (preview previewLimit text)) }
    let (service, result, delivery, records) :=
      service.run .text fill timeout (buildText service.settings text topMargin bottomFeed) id transport
    let receipt := result.map fun (id, _) => (⟨id, service.registry.get? id, none, none⟩ : Receipt)
    (service, ⟨receipt, delivery, asked :: records⟩)

/-- The number of characters of a symbol's data that a message shows. -/
def symbolPreviewLimit : Int := 50

/-- Prints a symbol job, and adds to its record what is known of the symbol. -/
def runSymbol (service : Service) (kind : JobKind) (caption : Option String) (timeout : Option Quantity)
    (build : (label : String) → Build Qr.Job) (asked : String) (transport : Transport) :
    Service × PrintReport :=
  let fill (job : JobRecord) : JobRecord := { job with caption }
  let (service, result, delivery, records) := service.run kind fill timeout build Qr.Job.data transport
  let records := record .info noJob asked :: records
  match result with
  | .error e => (service, ⟨.error e, delivery, records⟩)
  | .ok (id, job) =>
    let report := SymbolReport.ofJob job
    let service := service.changeJob id fun job => { job with symbol := some report }
    (service, ⟨.ok ⟨id, service.registry.get? id, some report, none⟩, delivery, records⟩)

/-- Prints a symbol alone. -/
def printSymbol (service : Service) (data : Json) (timeout : Option Quantity) (transport : Transport) :
    Service × PrintReport :=
  match nonblankText "data_b64" data with
  | .error e => service.refuse e
  | .ok data =>
    let request := Qr.Request.ofSettings service.settings (CodePoint.ofChars data)
    service.runSymbol .symbol none timeout (fun label => ⟨Qr.bareJob request, request.records label⟩)
      ("QR request: " ++ quotedPreview symbolPreviewLimit data) transport

/-- Prints a symbol with a caption. -/
def printCaptioned (service : Service) (data : Json) (caption : String) (timeout : Option Quantity)
    (transport : Transport) : Service × PrintReport :=
  match nonblankText "qr_string" data with
  | .error e => service.refuse e
  | .ok data =>
    let settings := service.settings
    let request := Qr.Request.ofSettings settings (CodePoint.ofChars data)
    service.runSymbol .captionedSymbol (some caption) timeout
      (fun label =>
        ⟨Qr.captionedJob request (some caption.toList) settings.autoFeedLines settings.encoding,
          request.records label⟩)
      ("QR request: " ++ quotedPreview symbolPreviewLimit data ++ " text=" ++
        quotedPreview symbolPreviewLimit caption.toList) transport

/-- Prints a symbol as an image with a caption. -/
def printImage (service : Service) (data : Json) (caption : String) (timeout : Option Quantity)
    (transport : Transport) : Service × PrintReport :=
  match nonblankText "data" data with
  | .error e => service.refuse e
  | .ok data =>
    let settings := service.settings
    let request := Qr.Request.ofSettings settings (CodePoint.ofChars data)
    let width := settings.rasterWidth?.getD 0
    let build (label : String) : Build Qr.Job :=
      let result := Qr.imageJob request (some caption.toList) settings.autoFeedLines settings.encoding width
        settings.printerProfile
      let refusal := match result with
        | .ok job => job.refusal
        | .error _ => Qr.refusal? request width settings.printerProfile
      ⟨result, request.records label ++ Qr.refusalRecords refusal label⟩
    service.runSymbol .imageSymbol (some caption) timeout build
      ("QR image request (" ++ toString data.length ++ " chars): " ++ quotedPreview symbolPreviewLimit data) transport

/-- The data of the test symbol. -/
def testData : String := "TEST"

/-- The caption of the test symbol. -/
def testCaption : String := "QR Test: TEST"

/-- Prints a small symbol with a caption, which shows whether the printer draws symbols at all. -/
def printTestSymbol (service : Service) (transport : Transport) : Service × PrintReport :=
  let (service, report) := service.printCaptioned (.str testData) testCaption none transport
  let receipt := report.result.map fun receipt => { receipt with testData := some testData }
  (service, { report with
    result := receipt, records := record .info noJob "QR capability test requested" :: report.records })

/-- The document of a test print at some local time. -/
def testDocument (settings : Settings) (localTime : Timestamp) : String :=
  "<center><b>TEST PRINT</b></center>\nPrinter: " ++ settings.portName ++ "\nTime: " ++ localTime.plainText ++
    "\nStatus: Online"

/-- Prints the name of the printer and the local time. -/
def printTest (service : Service) (localTime : Timestamp) (transport : Transport) : Service × PrintReport :=
  service.printText (.str (testDocument service.settings localTime)) none none none transport

end Service

end ThermalPress
