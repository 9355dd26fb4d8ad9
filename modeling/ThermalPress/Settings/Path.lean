import ThermalPress.Text.Pieces

/-!
# Paths of configuration files

A path is written in a normal form: single slashes, no steps to the same directory.  The configuration file lies
where the environment says (`Settings.configPath`), and otherwise in the user's configuration directory
(`Settings.standardConfigPath`).
-/

namespace ThermalPress

/-- Environment variables by name. -/
abbrev Environment := List (String × String)

/-- A path: the slashes it starts with, and the names on the way. -/
structure FilePath where
  root : String
  names : List String
  deriving DecidableEq, Repr

namespace FilePath

/-- The path that a text stands for.  Two slashes in front are kept, three and more count as one. -/
def ofText (s : List Char) : FilePath where
  root :=
    match (s.takeWhile (· == '/')).length with
    | 0 => ""
    | 2 => "//"
    | _ => "/"
  names := ((pieces '/' s).filter fun name => name != [] && name != ['.']).map String.ofList

/-- The text of a path. -/
def text (path : FilePath) : String :=
  if path.root.isEmpty && path.names.isEmpty then "." else path.root ++ "/".intercalate path.names

/-- The path of something below a directory. -/
def below (path : FilePath) (names : List String) : FilePath := { path with names := path.names ++ names }

end FilePath

namespace Settings

/-- What the names of all environment variables of the service start with. -/
def environmentStart : String := "MARKUPPRINTER_"

/-- The path of the configuration file below a configuration directory. -/
def configNames : List String := ["markupprinter", "config.json"]

/-- The home directory, without slashes behind it. -/
private def homePath (environment : Environment) : FilePath :=
  let home := ((environment.lookup "HOME").getD "/root").toList
  let home := (home.reverse.dropWhile (· == '/')).reverse
  FilePath.ofText (if home.isEmpty then ['/'] else home)

/-- Where the configuration file lies unless the environment names it. -/
def standardConfigPath (environment : Environment) : String :=
  match environment.lookup "XDG_CONFIG_HOME" with
  | some directory =>
    if directory.isEmpty then ((homePath environment).below (".config" :: configNames)).text
    else ((FilePath.ofText directory.toList).below configNames).text
  | none => ((homePath environment).below (".config" :: configNames)).text

/-- Where the configuration file lies. -/
def configPath (environment : Environment) : String :=
  (environment.lookup (environmentStart ++ "CONFIG_PATH")).getD (standardConfigPath environment)

end Settings

end ThermalPress
