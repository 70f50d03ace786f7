import LexReport.Files.Work

/-! Reports and summaries put into files. -/

set_option autoImplicit false

namespace LexReport.Report

open Notice

inductive Error where
  | writeFailed (path reason : String)
  /-- The summary has no form as a document. -/
  | summaryFailed (reason : String)
  deriving DecidableEq, Repr

namespace Error

def message : Error → String
  | writeFailed path reason => "Failed to write report to '" ++ path ++ "': " ++ reason
  | summaryFailed reason => "Failed to serialize analysis summary: " ++ reason

def code : Error → Notice.Code
  | writeFailed _ _ => .reportWriteFailed
  | summaryFailed _ => .summaryFailed

end Error

def deliver (path text : String) : Files.Work Error Unit := fun tree =>
  match tree.writeText path text with
  | .ok tree =>
    let written := (Event.success .reportWritten "Report written").details
      [("path", path), ("bytes", toString text.utf8ByteSize)]
    ⟨[written], .ok (), tree⟩
  | .error failure =>
    let error := Error.writeFailed path failure.message
    let told := (Event.error error.code "Failed to write report").details
      [("path", path), ("io_error", failure.message)]
    ⟨[told], .error error, tree⟩

/-- Write a document to a file, if there is one: otherwise the reason is given why not. -/
def deliverDocument (path : String) : Except String String → Files.Work Error Unit
  | .ok text => deliver path text
  | .error reason =>
    let error := Error.summaryFailed reason
    .ofStage (.fail error (.error error.code error.message))

end LexReport.Report
