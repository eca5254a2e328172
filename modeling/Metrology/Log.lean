/-!
# Log records

An operation that reports something beside its result returns the records it would log.
-/

namespace Metrology

/-- How much a record matters. -/
inductive LogLevel
  | debug | warn
  deriving DecidableEq

/-- The name that a record is written with. -/
def LogLevel.name : LogLevel → String
  | debug => "DEBUG"
  | warn => "WARN"

/-- One line of the log. -/
structure LogRecord where
  level : LogLevel
  text : String
  deriving DecidableEq

end Metrology
