import ThermalPress.CommandLine.Start
import ThermalPress.Libraries.Encodings

/-!
# The program

Starts the service from the command line: reads the environment and the configuration file, and writes the lines of
the log about the start.  Connections are made elsewhere and answered by `Server.handle`.
-/

namespace ThermalPress

open scoped Libraries

/-- How the program is used. -/
def usageText : String :=
  "usage: thermalpress [-h] [--host HOST] [--port PORT] [--config CONFIG] [--debug]\n\n" ++
    "  -h, --help       show this help message and exit\n" ++
    "  --host HOST      Interface to bind\n" ++
    "  --port PORT      HTTP port (default 3000)\n" ++
    "  --config CONFIG  Path to config.json (overrides MARKUPPRINTER_CONFIG_PATH)\n" ++
    "  --debug          Enable debug logging"

/-- The environment variables that the service looks at. -/
def variableNames : List String :=
  ["HOME", "XDG_CONFIG_HOME"] ++
    (["HOST", "HTTP_PORT", "CONFIG_PATH", "MAX_CONTENT_LENGTH", "JSON_LOGS"].map (Settings.environmentStart ++ ·)) ++
    Settings.names.map Settings.environmentName

/-- The environment of the program. -/
def readEnvironment : IO Environment :=
  variableNames.filterMapM fun name => return (← IO.getEnv name).map fun value => (name, value)

/-- The text of a file, if there is one. -/
def readText (path : String) : IO (Option String) := do
  match ← (IO.FS.readFile path).toBaseIO with
  | .ok text => return some text
  | .error (.noFileOrDirectory ..) => return none
  | .error e => throw e

/-- Starts the service; gives the status with which the program ends. -/
def startProgram (arguments : List String) : IO UInt32 := do
  let environment ← readEnvironment
  match Options.read environment arguments with
  | .error .help =>
    IO.println usageText
    return 0
  | .error (.port e) =>
    IO.eprintln e.message
    return 1
  | .error .usage =>
    IO.eprintln usageText
    return 2
  | .ok options =>
    let file ← readText (options.config.getD (Settings.configPath environment))
    match Start.prepare options environment (file.map String.toList) with
    | .error e =>
      IO.eprintln e.message
      return 1
    | .ok start =>
      for line in start.log.lines start.records do
        IO.eprintln line
      return 0

end ThermalPress

def main (arguments : List String) : IO UInt32 := ThermalPress.startProgram arguments
