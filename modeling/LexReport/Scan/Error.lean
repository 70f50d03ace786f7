import LexReport.Source.Span
import LexReport.Symbol.Error

/-! What ends a scan early. -/

set_option autoImplicit false

namespace LexReport.Scan

inductive Error where
  | identifierTooLong (length : Nat) (span : Source.Span)
  | stringTooLarge (size : Nat) (span : Source.Span)
  | commentTooLong (length : Nat) (span : Source.Span)
  | tooManyTokens (count : Nat)
  /-- The rules cannot be used. -/
  | rulesUnusable (reason : String)
  | symbols (error : Symbol.Error)
  deriving DecidableEq, Repr

namespace Error

def code : Error → Notice.Code
  | identifierTooLong _ _ => .identifierTooLong
  | stringTooLarge _ _ => .stringTooLarge
  | commentTooLong _ _ => .commentTooLong
  | tooManyTokens _ => .tooManyTokens
  | rulesUnusable _ => .rulesUnusable
  | symbols error => error.code

def message (limits : Limits) : Error → String
  | identifierTooLong length span =>
    "Identifier too long: " ++ toString length ++ " characters (max " ++
      toString limits.lexical.maxIdentifierLength ++ ") at " ++ span.text
  | stringTooLarge size span =>
    "String too large: " ++ toString size ++ " bytes (max " ++
      toString limits.lexical.maxStringSize ++ ") at " ++ span.text
  | commentTooLong length span =>
    "Comment too long: " ++ toString length ++ " characters (max " ++
      toString limits.lexical.maxCommentLength ++ ") at " ++ span.text
  | tooManyTokens count =>
    "Too many tokens: " ++ toString count ++ " (max " ++
      toString limits.lexical.maxTokenCount ++ ")"
  | rulesUnusable reason => "Rule table failed to compile: " ++ reason
  | symbols error => error.message limits.symbols

def span? : Error → Option Source.Span
  | identifierTooLong _ span | stringTooLarge _ span | commentTooLong _ span => some span
  | tooManyTokens _ | rulesUnusable _ | symbols _ => none

end Error

end LexReport.Scan
