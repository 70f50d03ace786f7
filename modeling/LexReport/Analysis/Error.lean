import LexReport.Input.Error
import LexReport.Report.Delivery
import LexReport.Scan.Error

/-! Why an analysis was not completed. -/

set_option autoImplicit false

namespace LexReport.Analysis

inductive Error where
  | input (error : Input.Error)
  | scan (error : Scan.Error)
  | symbols (error : Symbol.Error)
  | report (error : Report.Error)
  deriving DecidableEq, Repr

inductive InputFailure where
  | missing
  | unreadable
  deriving DecidableEq, Repr

namespace Error

def message (limits : Limits) : Error → String
  | input error => "File processing failed: " ++ error.message
  | scan error => "Lexical analysis failed: " ++ error.message limits
  | symbols error => "Symbol table construction failed: " ++ error.message limits.symbols
  | report error => "Report output failed: " ++ error.message

def code : Error → Notice.Code
  | input error => error.code
  | scan error => error.code
  | symbols error => error.code
  | report error => error.code

def inputFailure? : Error → Option InputFailure
  | input error => some (if error.isMissing then .missing else .unreadable)
  | _ => none

end Error

end LexReport.Analysis
