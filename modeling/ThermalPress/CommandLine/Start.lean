import ThermalPress.CommandLine.Options
import ThermalPress.Http.Server
import ThermalPress.Log.Line
import ThermalPress.Settings.Resolve

/-!
# Starting the service

From options to a service that is ready to be used (`Start.prepare`): the log is set up, the settings are resolved, and
a server is made.  The start is recorded line by line.
-/

namespace ThermalPress

/-- Why the service cannot be started. -/
inductive StartError where
  | settings (e : ResolveError)
  /-- The limit of bodies in the environment is no number. -/
  | limit (e : IntegerError)
  deriving DecidableEq, Repr

/-- What the error says. -/
def StartError.message : StartError → String
  | .settings (.json e) => e.message
  | .settings (.document e) => e.message
  | .settings (.values issues) => Refusal.ofIssues issues
  | .limit e => e.message

/-- A service that is ready to be used. -/
structure Start where
  log : LogSetup
  settings : Settings
  bodyLimit : Int
  records : List LogRecord
  deriving DecidableEq, Repr

namespace Start

/-- The resources that the record of the start names. -/
def namedResources : List String := [
  "GET /", "GET /health", "POST /print", "POST /printqr", "POST /test-qr", "POST /test-print", "GET /test-printqr",
  "GET /test-qris"]

/-- What is recorded about a service that is about to answer requests. -/
def recordsOf (options : Options) (settings : Settings) : List LogRecord :=
  let record (message : String) : LogRecord := Source.application.record .info noJob message
  [Server.startRecord settings,
    record ("Host: http://" ++ options.host ++ ":" ++ toString options.port),
    record ("Printer: " ++ settings.endpointName ++ " (line width " ++ toString settings.lineWidth ++ ", timeout " ++
      (Quantity.real settings.printTimeout).oneDecimal ++ "s)"),
    record ("Endpoints: " ++ " | ".intercalate namedResources)]

variable [Codecs]

/-- Prepares a service; `file` is the text of the configuration file, if there is one. -/
def prepare (options : Options) (environment : Environment) (file : Option (List Char)) : Except StartError Start := do
  let settings ← (Settings.resolveFrom file environment []).mapError .settings
  let bodyLimit ← (Server.bodyLimitOf environment).mapError .limit
  let log := LogSetup.ofEnvironment (if options.debug then .debug else .info) environment
  return ⟨log, settings, bodyLimit, recordsOf options settings⟩

end Start

end ThermalPress
