import LexReport.Config.Preferences
import LexReport.Toml.Fields

/-! Preferences from a document. What it leaves out stays as it was. -/

set_option autoImplicit false

namespace LexReport

open Toml (Fields Item)

def Notice.Level.ofName? (name : String) : Option Notice.Level :=
  if name = "error" then some .error
  else if name = "warning" then some .warning
  else if name = "info" then some .info
  else if name = "debug" then some .debug
  else none

def FilePreferences.over? (old : FilePreferences) (fields : Fields) : Option FilePreferences := do
  let flag? := fields.getOr? Item.boolean?
  let normalizeLineEndings ← flag? 0 "normalize_line_endings" old.normalizeLineEndings
  let logPerformance ← flag? 1 "enable_performance_logging" old.logPerformance
  let warnOnLargeFiles ← flag? 2 "warn_on_large_files" old.warnOnLargeFiles
  return ⟨normalizeLineEndings, logPerformance, warnOnLargeFiles⟩

def LexicalPreferences.over? (old : LexicalPreferences) (fields : Fields) :
    Option LexicalPreferences := do
  let flag? := fields.getOr? Item.boolean?
  let collectDetails ← flag? 0 "collect_detailed_metrics" old.collectDetails
  let warnOnUnmatched ← flag? 1 "warn_on_unmatched" old.warnOnUnmatched
  let includePositions ← flag? 2 "include_position_in_errors" old.includePositions
  let trackOperators ← flag? 3 "track_operator_patterns" old.trackOperators
  return ⟨collectDetails, warnOnUnmatched, includePositions, trackOperators⟩

def SymbolPreferences.over? (old : SymbolPreferences) (fields : Fields) :
    Option SymbolPreferences := do
  let flag? := fields.getOr? Item.boolean?
  let enforceLimit ← flag? 0 "enforce_entry_limit" old.enforceLimit
  let logNewIdentifiers ← flag? 1 "log_new_identifiers" old.logNewIdentifiers
  return ⟨enforceLimit, logNewIdentifiers⟩

def ReportPreferences.over? (old : ReportPreferences) (fields : Fields) :
    Option ReportPreferences := do
  let path? (item : Item) := item.string?.map some
  let summaryPath ← fields.getOr? path? 0 "json_summary_path" old.summaryPath
  let reportWithoutTokens ←
    fields.getOr? Item.boolean? 1 "write_report_without_tokens" old.reportWithoutTokens
  return ⟨summaryPath, reportWithoutTokens⟩

def NoticePreferences.over? (old : NoticePreferences) (fields : Fields) :
    Option NoticePreferences := do
  let flag? := fields.getOr? Item.boolean?
  let level? (item : Item) := item.symbol?.bind Notice.Level.ofName?
  let structured ← flag? 0 "use_structured_logging" old.structured
  let console ← flag? 1 "enable_console_logging" old.console
  let minLevel ← fields.getOr? level? 2 "min_log_level" old.minLevel
  let performance ← flag? 3 "log_performance_events" old.performance
  let summarize ← flag? 4 "enable_cargo_style_output" old.summarize
  let nameFile ← flag? 5 "include_file_context" old.nameFile
  return ⟨structured, console, minLevel, performance, summarize, nameFile⟩

def readSection? {α : Type} (read? : Fields → Option α) (item : Item) : Option α :=
  item.fields?.bind read?

/-- Preferences with what a document says instead; none if it says something of a wrong kind. -/
def Preferences.over? (old : Preferences) (entries : Toml.Entries) : Option Preferences := do
  let document := Fields.named entries
  let files ← document.getOr? (readSection? old.files.over?) 0 "file_processor" old.files
  let lexical ← document.getOr? (readSection? old.lexical.over?) 1 "lexical" old.lexical
  let symbols ← document.getOr? (readSection? old.symbols.over?) 2 "symbols" old.symbols
  let report ← document.getOr? (readSection? old.report.over?) 3 "report" old.report
  let notices ← document.getOr? (readSection? old.notices.over?) 4 "logging" old.notices
  return ⟨files, lexical, symbols, report, notices⟩

end LexReport
