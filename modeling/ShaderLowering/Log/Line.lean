/-!
# Log lines

## Main definitions

* `Level` — how important a line is.
* `logLine` — a line of a log.
-/

namespace ShaderLowering

/-- How important a log line is. -/
inductive Level where
  | trace | debug | info | warn | error
deriving DecidableEq, Repr

/-- The name of a level. -/
def Level.text : Level → String
  | trace => "TRACE"
  | debug => "DEBUG"
  | info => "INFO"
  | warn => "WARN"
  | error => "ERROR"

/-- A log line: a level, the part of the program that speaks, and what it says. -/
def logLine (level : Level) (speaker text : String) : String :=
  level.text ++ " [" ++ speaker ++ "] " ++ text

end ShaderLowering
