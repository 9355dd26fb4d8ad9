/-!
# Log records

What a record of the log says: how much it matters, which part of the service wrote it, the print job it belongs to,
and a message.  A record that belongs to no job carries `noJob`.
-/

namespace ThermalPress

/-- How much a record matters; larger numbers matter more. -/
abbrev LogLevel := Int

namespace LogLevel

def debug : LogLevel := 10
def info : LogLevel := 20
def warning : LogLevel := 30
def error : LogLevel := 40

/-- The levels that have names. -/
def names : List (LogLevel × String) := [
  (0, "NOTSET"), (debug, "DEBUG"), (info, "INFO"), (warning, "WARNING"), (error, "ERROR"), (50, "CRITICAL")]

/-- The name of a level. -/
def name (level : LogLevel) : String := (names.lookup level).getD ("Level " ++ toString level)

end LogLevel

/-- The label of records that belong to no print job. -/
def noJob : String := "-"

/-- A record of the log. -/
structure LogRecord where
  level : LogLevel
  logger : String
  job : String
  message : String
  deriving DecidableEq, Repr

/-- The parts of the service that write records. -/
inductive Source where
  | application
  | markup
  | symbols
  | transport
  | service
  deriving DecidableEq, Repr

/-- The name of the logger of a part. -/
def Source.logger : Source → String
  | .application => "markup_printer"
  | .markup => "markup_printer.printing.markup"
  | .symbols => "markup_printer.printing.qr"
  | .transport => "markup_printer.printing.transport"
  | .service => "markup_printer.printing.service"

/-- A record of a part of the service. -/
def Source.record (source : Source) (level : LogLevel) (job message : String) : LogRecord :=
  ⟨level, source.logger, job, message⟩

end ThermalPress
