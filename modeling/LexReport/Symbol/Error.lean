import LexReport.Limits
import LexReport.Notice.Code

/-! A store of symbols that is full. -/

set_option autoImplicit false

namespace LexReport.Symbol

inductive Error where
  /-- No room for the symbol with this lexeme. -/
  | tableFull (lexeme : String)
  /-- No room for the plain identifier of this name. -/
  | identifiersFull (name : String)
  deriving DecidableEq, Repr

namespace Error

def code : Error → Notice.Code
  | tableFull _ => .symbolLimitExceeded
  | identifiersFull _ => .identifierLimitExceeded

def message (limits : SymbolLimits) : Error → String
  | tableFull lexeme =>
    "Symbol table limit exceeded: more than " ++ toString limits.maxSymbolEntries ++
      " unique entries (at '" ++ lexeme ++ "')"
  | identifiersFull name =>
    "Identifier registry limit exceeded: more than " ++ toString limits.maxPlainIdentifiers ++
      " identifiers (at '" ++ name ++ "')"

end Error

end LexReport.Symbol
