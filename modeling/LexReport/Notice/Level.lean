/-! How much an event matters. -/

set_option autoImplicit false

namespace LexReport.Notice

inductive Level where
  | error
  | warning
  | info
  | debug
  deriving DecidableEq, Repr, Inhabited

namespace Level

def verbosity : Level → Nat
  | error => 0
  | warning => 1
  | info => 2
  | debug => 3

def label : Level → String
  | error => "ERROR"
  | warning => "WARN"
  | info => "INFO"
  | debug => "DEBUG"

/-- Whether an event of this level is shown where `limit` is the most verbose level shown. -/
def isWithin (level limit : Level) : Bool :=
  level.verbosity ≤ limit.verbosity

def mostVerbose (first second : Level) : Level :=
  if first.isWithin second then second else first

end Level

end LexReport.Notice
