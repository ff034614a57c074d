import FleetSelect.Failure
import FleetSelect.Text.Blank
import FleetSelect.Unicode.LowerCase

namespace FleetSelect

open FleetSelect.Text

inductive LogLevel where
  | trace
  | debug
  | info
  | warn
  | error
deriving DecidableEq, Inhabited

namespace LogLevel

def name : LogLevel → String
  | .trace => "trace"
  | .debug => "debug"
  | .info => "info"
  | .warn => "warn"
  | .error => "error"

def ofWord? : String → Option LogLevel
  | "trace" => some .trace
  | "debug" => some .debug
  | "info" => some .info
  | "warn" => some .warn
  | "warning" => some .warn
  | "error" => some .error
  | _ => none

end LogLevel

def settingWord (s : String) : String :=
  String.ofList (Unicode.lowerList (trimList s.toList))

def LogLevel.ofText (s : String) : Except Failure LogLevel :=
  match ofWord? (settingWord s) with
  | some level => .ok level
  | none => .error <| .invalidConfig <|
    "unknown log level '" ++ s ++ "', expected one of: trace, debug, info, warn, error"

def boolOfWord? : String → Option Bool
  | "true" => some true
  | "1" => some true
  | "yes" => some true
  | "false" => some false
  | "0" => some false
  | "no" => some false
  | _ => none

def boolOfText (key s : String) : Except Failure Bool :=
  match boolOfWord? (settingWord s) with
  | some b => .ok b
  | none => .error <| .invalidConfig <|
    "invalid value '" ++ s ++ "' for " ++ key ++ ", expected true or false"

structure Settings where
  logLevel : LogLevel := .warn
  pretty : Bool := true
deriving DecidableEq, Inhabited

namespace Settings

def logLevelVariable : String := "HOSTLIMIT_LOG_LEVEL"

def prettyVariable : String := "HOSTLIMIT_PRETTY"

/-- The settings that variables give; the level is read first. -/
def ofLookup (lookup : String → Option String) : Except Failure Settings := do
  let level ← match lookup logLevelVariable with
    | some s => LogLevel.ofText s
    | none => .ok .warn
  let pretty ← match lookup prettyVariable with
    | some s => boolOfText prettyVariable s
    | none => .ok true
  return ⟨level, pretty⟩

def override (s : Settings) (level : Option LogLevel) (pretty : Option Bool) : Settings where
  logLevel := level.getD s.logLevel
  pretty := pretty.getD s.pretty

end Settings

end FleetSelect
