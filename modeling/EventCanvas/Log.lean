/-!
# Log records
-/

namespace EventCanvas

/-- How serious a log record is. -/
inductive Level where
  | debug
  | info
  | warning
  | error
deriving DecidableEq

namespace Level

/-- The name of a level. -/
def name : Level → String
  | debug => "DEBUG"
  | info => "INFO"
  | warning => "WARNING"
  | error => "ERROR"

/-- The weight of a level, against which a threshold is set. -/
def weight : Level → Nat
  | debug => 10
  | info => 20
  | warning => 30
  | error => 40

end Level

/-- A log record: how serious it is, which part wrote it, what it says, and whether it was written
while a fault was being handled. -/
structure LogRecord where
  level : Level
  origin : String
  message : String
  hasFault : Bool
deriving DecidableEq

/-- The line of a log record, after its time. -/
def LogRecord.line (r : LogRecord) : String :=
  r.level.name ++ " canvasflow." ++ r.origin ++ ": " ++ r.message

end EventCanvas
