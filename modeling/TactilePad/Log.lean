/-!
# Log records
-/

namespace TactilePad

inductive LogLevel
  | debug
  | info
  | warn
  | error
  deriving DecidableEq, Repr

/-- The name of a level as it is shown. -/
def LogLevel.name : LogLevel → String
  | .debug => "DEBUG"
  | .info => "INFO"
  | .warn => "WARN"
  | .error => "ERROR"

structure LogRecord where
  level : LogLevel
  text : String
  deriving DecidableEq, Repr

end TactilePad
