import LexReport.Notice.Code

/-! Why an input cannot be used. -/

set_option autoImplicit false

namespace LexReport.Input

inductive Error where
  | fileNotFound (path : String)
  | fileTooLarge (size limit : Nat)
  | emptyFile
  | permissionDenied (path : String)
  | invalidEncoding (path : String)
  | readFailure (reason : String)
  /-- The path is empty or does not lead to a file. -/
  | invalidPath (path : String)
  | tooManyLines (lines limit : Nat)
  deriving DecidableEq, Repr

namespace Error

def message : Error → String
  | fileNotFound path => "File not found: " ++ path
  | fileTooLarge size limit =>
    "File too large: " ++ toString size ++ " bytes (max: " ++ toString limit ++ ")"
  | emptyFile => "File is empty"
  | permissionDenied path => "Permission denied: " ++ path
  | invalidEncoding path => "Invalid UTF-8 encoding in file: " ++ path
  | readFailure reason => "I/O error reading file: " ++ reason
  | invalidPath path => "Invalid file path: " ++ path
  | tooManyLines lines limit =>
    "File exceeds maximum line count: " ++ toString lines ++ " (max: " ++ toString limit ++ ")"

def code : Error → Notice.Code
  | fileNotFound _ => .fileNotFound
  | fileTooLarge _ _ | tooManyLines _ _ => .fileTooLarge
  | emptyFile => .emptyFile
  | permissionDenied _ => .permissionDenied
  | invalidEncoding _ => .invalidEncoding
  | readFailure _ => .readFailure
  | invalidPath _ => .invalidPath

/-- Whether there is no file, as opposed to one that cannot be used. -/
def isMissing : Error → Bool
  | fileNotFound _ | invalidPath _ => true
  | _ => false

end Error

end LexReport.Input
