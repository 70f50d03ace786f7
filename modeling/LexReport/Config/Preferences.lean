import LexReport.Notice.Level

/-! What a user may choose for a run. -/

set_option autoImplicit false

namespace LexReport

structure FilePreferences where
  normalizeLineEndings : Bool := true
  logPerformance : Bool := true
  warnOnLargeFiles : Bool := true
  deriving DecidableEq, Repr

structure LexicalPreferences where
  /-- Count the matches of each category. -/
  collectDetails : Bool := true
  warnOnUnmatched : Bool := true
  includePositions : Bool := true
  /-- Count how often each operator is written. -/
  trackOperators : Bool := false
  deriving DecidableEq, Repr

structure SymbolPreferences where
  /-- Fail when the symbol table is full; otherwise further entries are dropped. -/
  enforceLimit : Bool := true
  logNewIdentifiers : Bool := false
  deriving DecidableEq, Repr

structure ReportPreferences where
  summaryPath : Option String := none
  reportWithoutTokens : Bool := true
  deriving DecidableEq, Repr

structure NoticePreferences where
  structured : Bool := false
  console : Bool := false
  minLevel : Notice.Level := .info
  performance : Bool := true
  /-- Print a summary of errors and warnings when a run is over. -/
  summarize : Bool := true
  /-- Name the file at hand in each event. -/
  nameFile : Bool := true
  deriving DecidableEq, Repr

structure Preferences where
  files : FilePreferences := {}
  lexical : LexicalPreferences := {}
  symbols : SymbolPreferences := {}
  report : ReportPreferences := {}
  notices : NoticePreferences := {}
  deriving DecidableEq, Repr

end LexReport
