/-!
Log lines. What is logged belongs to what is done, so functions hand their lines back together with
their results; whether a line is shown is up to whoever runs them.
-/

namespace ControlComponent.Log

/-- How important a line is. -/
inductive Level where
  | error
  | warn
  | info
  | debug
deriving DecidableEq

/-- The name of a level. -/
def Level.name : Level → String
  | .error => "ERROR"
  | .warn => "WARN"
  | .info => "INFO"
  | .debug => "DEBUG"

/-- How much is shown at a level: everything of a lower or the same rank. -/
def Level.rank : Level → Nat
  | .error => 1
  | .warn => 2
  | .info => 3
  | .debug => 4

/-- A line. Lines that name cards whose codes were computed are kept apart, for they are shown only
on demand. -/
structure Line where
  level : Level
  isSecure : Bool
  text : String
deriving DecidableEq

namespace Line

/-- A line of a level. -/
def of (level : Level) (text : String) : Line := ⟨level, false, text⟩

/-- A line that is kept apart. -/
def secure (text : String) : Line := ⟨.debug, true, text⟩

end Line
end ControlComponent.Log
