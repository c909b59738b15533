/-
# Log lines

What the indicator reports while it works.  Lines are values: a function that reports gives its
lines beside its result, in the order in which they were written.
-/

namespace LoadingIndicator.Log

/-- How much a line matters. -/
inductive Level
  | warn
  | debug
  deriving DecidableEq

def Level.name : Level → String
  | .warn => "WARN"
  | .debug => "DEBUG"

structure Line where
  level : Level
  message : String
  deriving DecidableEq

end LoadingIndicator.Log
