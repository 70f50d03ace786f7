/-! Codes of events, and what is on record for each. -/

set_option autoImplicit false

namespace LexReport.Notice

structure Code where
  text : String
  deriving DecidableEq, Repr, Inhabited

inductive Severity where
  | critical
  | high
  | medium
  | low
  deriving DecidableEq, Repr

namespace Severity

def label : Severity → String
  | critical => "Critical"
  | high => "High"
  | medium => "Medium"
  | low => "Low"

/-- The gravest has rank zero. -/
def rank : Severity → Nat
  | critical => 0
  | high => 1
  | medium => 2
  | low => 3

end Severity

structure CodeRecord where
  code : Code
  category : String
  severity : Severity
  isRecoverable : Bool
  requiresHalt : Bool
  description : String
  action : String
  deriving DecidableEq, Repr

namespace Code

def internalError : Code := ⟨"ERR001"⟩
def initializationFailure : Code := ⟨"ERR002"⟩
def fileNotFound : Code := ⟨"E005"⟩
def fileTooLarge : Code := ⟨"E007"⟩
def emptyFile : Code := ⟨"E008"⟩
def permissionDenied : Code := ⟨"E009"⟩
def invalidEncoding : Code := ⟨"E010"⟩
def readFailure : Code := ⟨"E011"⟩
def invalidPath : Code := ⟨"E012"⟩
def unmatchedInput : Code := ⟨"W020"⟩
def identifierTooLong : Code := ⟨"E023"⟩
def stringTooLarge : Code := ⟨"E024"⟩
def commentTooLong : Code := ⟨"E026"⟩
def tooManyTokens : Code := ⟨"E027"⟩
def rulesUnusable : Code := ⟨"E029"⟩
def symbolLimitExceeded : Code := ⟨"E030"⟩
def identifierLimitExceeded : Code := ⟨"E031"⟩
def reportWriteFailed : Code := ⟨"E040"⟩
def summaryFailed : Code := ⟨"E041"⟩
def operationCompleted : Code := ⟨"I001"⟩
def systemInitialized : Code := ⟨"I004"⟩
def fileProcessed : Code := ⟨"I006"⟩
def tokenized : Code := ⟨"I020"⟩
def symbolTableBuilt : Code := ⟨"I030"⟩
def reportWritten : Code := ⟨"I040"⟩
def analysisCompleted : Code := ⟨"I050"⟩

def plainWarning : Code := ⟨"W000"⟩
def plainInfo : Code := ⟨"I000"⟩
def plainDebug : Code := ⟨"D000"⟩

def failure (code : Code) (category : String) (severity : Severity)
    (description action : String) : CodeRecord :=
  ⟨code, category, severity, false, true, description, action⟩

def finding (code : Code) (category : String) (severity : Severity)
    (description action : String) : CodeRecord :=
  ⟨code, category, severity, true, false, description, action⟩

def success (code : Code) (description : String) : CodeRecord :=
  finding code "Success" .low description "None"

def records : List CodeRecord :=
  [failure internalError "System" .critical "Critical internal error"
      "File a bug report with the input that triggered it",
    failure initializationFailure "System" .critical "Initialization failure"
      "Check the preferences file and environment variables",
    failure fileNotFound "FileProcessing" .high "Input file not found" "Check the input path",
    failure fileTooLarge "FileProcessing" .high "Input file exceeds the configured size limit"
      "Split the input or build with a larger max_file_size",
    finding emptyFile "FileProcessing" .low "Input file contains no code"
      "Provide a file with source text",
    failure permissionDenied "FileProcessing" .high "Permission denied reading input"
      "Check file permissions",
    failure invalidEncoding "FileProcessing" .high "Input is not valid UTF-8"
      "Re-encode the input as UTF-8",
    failure readFailure "FileProcessing" .high "I/O error while reading input"
      "Retry once the underlying storage problem is fixed",
    failure invalidPath "FileProcessing" .high "Input path is not a regular file"
      "Pass a path to a text file",
    finding unmatchedInput "Lexical" .low "Input text not matched by any rule was skipped"
      "Remove or rewrite characters outside the supported C subset",
    failure identifierTooLong "Lexical" .high "Identifier exceeds the maximum length"
      "Shorten the identifier",
    failure stringTooLarge "Lexical" .high "String literal exceeds the maximum size"
      "Shorten the string literal",
    failure commentTooLong "Lexical" .high "Comment exceeds the maximum length"
      "Shorten the comment",
    failure tooManyTokens "Lexical" .critical "Token count exceeds the configured limit"
      "Split the input into smaller files",
    failure rulesUnusable "Lexical" .critical "Token rule table failed to compile"
      "File a bug report",
    failure symbolLimitExceeded "Symbols" .high "Symbol table entry limit exceeded"
      "Split the input or build with a larger max_symbol_entries",
    failure identifierLimitExceeded "Symbols" .high "Plain identifier registry limit exceeded"
      "Split the input or build with a larger max_plain_identifiers",
    failure reportWriteFailed "Report" .high "Report could not be written"
      "Check the output path and its directory permissions",
    finding summaryFailed "Report" .medium "JSON summary could not be produced"
      "Check the CLEX_JSON_SUMMARY path",
    success operationCompleted "Operation completed successfully",
    success systemInitialized "System initialization completed",
    success fileProcessed "File processing completed",
    success tokenized "Tokenization completed",
    success symbolTableBuilt "Symbol table built",
    success reportWritten "Report written",
    success analysisCompleted "Analysis completed"]

def record? (code : Code) : Option CodeRecord :=
  records.find? fun entry => entry.code == code

/-- A code that is not on record counts as a finding of medium severity. -/
def severity (code : Code) : Severity :=
  (code.record?.map (·.severity)).getD .medium

def isRecoverable (code : Code) : Bool :=
  (code.record?.map (·.isRecoverable)).getD true

def requiresHalt (code : Code) : Bool :=
  (code.record?.map (·.requiresHalt)).getD false

def category (code : Code) : String :=
  (code.record?.map (·.category)).getD "Unknown"

def description (code : Code) : String :=
  (code.record?.map (·.description)).getD "Unknown error"

def noAction : String := "No specific action available"

def action (code : Code) : String :=
  (code.record?.map (·.action)).getD noAction

end Code

end LexReport.Notice
