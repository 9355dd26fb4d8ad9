import ThermalPress.Number.Integer
import ThermalPress.Settings.Path

/-!
# Options of the command line

The options with which the service is started (`Options`), read from the arguments of the command line
(`Options.read`).  Each argument is an option, or a value (`Word.of`); after two hyphens everything is a value.  A
long option may be shortened as long as it stays the only one of its beginning, and its value may follow it or stand
behind an equals sign.  Values that belong to no option are an error, but only once all arguments have been looked at,
so that a call for help behind them is still heard.
-/

namespace ThermalPress

/-- The options of the service. -/
structure Options where
  host : String
  port : Int
  /-- The configuration file. -/
  config : Option String
  debug : Bool
  deriving DecidableEq, Repr

/-- Why there are no options. -/
inductive OptionsError where
  /-- The port in the environment is no number. -/
  | port (e : IntegerError)
  | usage
  /-- Help was asked for, which is no failure. -/
  | help
  deriving DecidableEq, Repr

/-- The status with which the program ends for want of options. -/
def OptionsError.exitStatus : OptionsError → Nat
  | .port _ => 1
  | .usage => 2
  | .help => 0

/-- The names of options. -/
inductive OptionName where
  | help
  | host
  | port
  | config
  | debug
  deriving DecidableEq, Repr

/-- The options by their long names. -/
def OptionName.known : List (String × OptionName) := [
  ("--help", .help), ("--host", .host), ("--port", .port), ("--config", .config), ("--debug", .debug)]

/-- What an argument is. -/
inductive Word where
  | value (text : String)
  /-- Two hyphens, after which everything is a value. -/
  | separator
  /-- An option, perhaps with a value behind an equals sign. -/
  | option (name : OptionName) (text : Option String)
  /-- The short call for help, with more characters behind it. -/
  | shortHelp (more : List Char)
  | ambiguous
  | unknown
  deriving DecidableEq, Repr

namespace Word

/-- Whether a text is a negative number. -/
private def isNegativeNumber (s : List Char) : Bool :=
  let isDigit (c : Char) : Bool := (Integer.decimalDigit? c).isSome
  match s with
  | '-' :: rest =>
    match rest.dropWhile isDigit with
    | [] => !rest.isEmpty
    | '.' :: places => !places.isEmpty && places.all isDigit
    | _ => false
  | _ => false

/-- An argument before its equals sign, and after it, if it has one. -/
private def splitEquals (s : List Char) : String × Option String :=
  let name := s.takeWhile (· != '=')
  (String.ofList name, if name.length = s.length then none else some (String.ofList (s.drop (name.length + 1))))

/-- The long option that an argument stands for. -/
private def longOption (s : List Char) : Word :=
  let (name, text) := splitEquals s
  match OptionName.known.lookup name with
  | some known => .option known text
  | none =>
    match OptionName.known.filter fun (long, _) => name.isPrefixOf long with
    | [(_, known)] => .option known text
    | [] => if s.contains ' ' then .value (String.ofList s) else .unknown
    | _ => .ambiguous

/-- What an argument is that does not come after two hyphens. -/
def of (argument : String) : Word :=
  match argument.toList with
  | ['-', '-'] => .separator
  | '-' :: '-' :: rest => longOption ('-' :: '-' :: rest)
  | ['-', 'h'] => .option .help none
  | '-' :: 'h' :: more => .shortHelp more
  | '-' :: c :: rest =>
    if isNegativeNumber ('-' :: c :: rest) || (c :: rest).contains ' ' then .value argument else .unknown
  | _ => .value argument

/-- What the arguments are. -/
def ofArguments : List String → List Word
  | [] => []
  | argument :: rest =>
    match of argument with
    | .separator => .separator :: rest.map .value
    | word => word :: ofArguments rest

end Word

namespace Options

/-- The options without any arguments, by the environment. -/
def ofEnvironment (environment : Environment) : Except OptionsError Options := do
  let variableOf (name fallback : String) : String :=
    (environment.lookup (Settings.environmentStart ++ name)).getD fallback
  let port ← (Integer.read 10 (variableOf "HTTP_PORT" "3000")).mapError .port
  return ⟨variableOf "HOST" "0.0.0.0", port, none, false⟩

/-- The options with a value for one of them. -/
private def withValue (options : Options) (name : OptionName) (text : String) : Except OptionsError Options :=
  match name with
  | .host => .ok { options with host := text }
  | .config => .ok { options with config := some text }
  | .port =>
    match Integer.read? 10 text.toList with
    | some port => .ok { options with port }
    | none => .error .usage
  | .help | .debug => .error .usage

/-- The short call for help may be repeated, and other short options behind it are not looked at. -/
private def shortHelpError : List Char → OptionsError
  | [] => .help
  | 'h' :: more => shortHelpError more
  | c :: _ => if c = '=' || c = '-' then .usage else .help

/-- The options after all words; `stray` says whether there was a word that belongs to no option. -/
private def readWords (options : Options) (stray : Bool) : List Word → Except OptionsError Options
  -- only now is a stray word an error: a call for help behind it has been heard
  | [] => if stray then .error .usage else .ok options
  | .value _ :: rest | .separator :: rest | .unknown :: rest => readWords options true rest
  | .ambiguous :: _ => .error .usage
  | .shortHelp more :: _ => .error (shortHelpError more)
  | .option .help none :: _ => .error .help
  | .option .debug none :: rest => readWords { options with debug := true } stray rest
  | .option name (some text) :: rest => do readWords (← options.withValue name text) stray rest
  | .option name none :: .value text :: rest => do readWords (← options.withValue name text) stray rest
  | .option _ none :: _ => .error .usage

/-- The options that the environment and the arguments of the command line give. -/
def read (environment : Environment) (arguments : List String) : Except OptionsError Options := do
  readWords (← ofEnvironment environment) false (Word.ofArguments arguments)

end Options

end ThermalPress
