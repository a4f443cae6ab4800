import DeskCalculator.Text.Capital
import DeskCalculator.Text.Numeral

/-!
# Launching the service

Where the service listens and how much it logs is set by the environment.  A
log level has to be one that is known, in any case of letters, and the port
number a whole number; the level is looked at first.
-/

namespace DeskCalculator

/-- The levels of logging. -/
inductive LogLevel where
  | critical
  | error
  | warning
  | info
  | debug
  | notSet
  deriving DecidableEq, Repr

namespace LogLevel

/-- The name of a level. -/
def name : LogLevel → String
  | critical => "CRITICAL"
  | error => "ERROR"
  | warning => "WARNING"
  | info => "INFO"
  | debug => "DEBUG"
  | notSet => "NOTSET"

/-- The level with a given name; two of them have a second one. -/
def ofName? : String → Option LogLevel
  | "CRITICAL" | "FATAL" => some critical
  | "ERROR" => some error
  | "WARNING" | "WARN" => some warning
  | "INFO" => some info
  | "DEBUG" => some debug
  | "NOTSET" => some notSet
  | _ => none

theorem ofName?_name (level : LogLevel) : ofName? level.name = some level := by
  cases level <;> rfl

end LogLevel

/-- Where the service listens and how much it logs. -/
structure Launch where
  host : String
  portNumber : Int
  level : LogLevel
  deriving DecidableEq, Repr

/-- Why the service cannot be launched. -/
inductive LaunchFault where
  /-- There is no log level of this name. -/
  | unknownLevel (name : String)
  /-- The port number is not written as a whole number. -/
  | badPortNumber (source : String) (fault : Text.NumeralFault)
  deriving DecidableEq, Repr

/-- The message of a fault. -/
def LaunchFault.message [Platform] : LaunchFault → String
  | unknownLevel name => "Unknown level: " ++ Text.quote name
  | badPortNumber source fault => fault.message source

namespace Launch

/-- The application that is served. -/
def application : String := "backend.app.main:app"

/-- The log level that the environment asks for. -/
def levelOf (valueOf? : String → Option String) : Except LaunchFault LogLevel :=
  let name := Text.capitals ((valueOf? "LOG_LEVEL").getD LogLevel.info.name)
  match LogLevel.ofName? name with
  | some level => .ok level
  | none => .error (.unknownLevel name)

/-- The port number that the environment asks for. -/
def portNumberOf (valueOf? : String → Option String) : Except LaunchFault Int :=
  let source := (valueOf? "SCICALC_PORT").getD "8000"
  (Text.readInteger source.toList).mapError (.badPortNumber source)

/-- What the environment asks for. -/
def ofEnvironment (valueOf? : String → Option String) : Except LaunchFault Launch := do
  let level ← levelOf valueOf?
  let portNumber ← portNumberOf valueOf?
  return ⟨(valueOf? "SCICALC_HOST").getD "127.0.0.1", portNumber, level⟩

/-- The names of the environment variables that `ofEnvironment` looks at. -/
def names : List String := ["LOG_LEVEL", "SCICALC_HOST", "SCICALC_PORT"]

/-- One line that says what is served and where. -/
def text (launch : Launch) : String :=
  s!"{application} on {launch.host}:{launch.portNumber}, log level {launch.level.name}"

end Launch

end DeskCalculator
