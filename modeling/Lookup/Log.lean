/-!
# Log records

## Main definitions

* `Level` — how important a record is
* `LogRecord` — a message of a part of the library
-/

namespace Lookup

/-- How important a record is. -/
inductive Level where
  | debug
  | info
  deriving DecidableEq, Repr

/-- The name of a level. -/
def Level.text : Level → String
  | .debug => "DEBUG"
  | .info => "INFO"

/-- A message that a part of the library logs. -/
structure LogRecord where
  level : Level
  /-- The name of the part. -/
  source : String
  message : String
  deriving DecidableEq, Repr

end Lookup
