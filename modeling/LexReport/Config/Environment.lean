import LexReport.Config.Preferences
import LexReport.Text.Lowercase

/-! Preferences from the variables of the environment. A value that cannot be understood counts as
if it were not there. -/

set_option autoImplicit false

namespace LexReport

abbrev Environment := List (String × String)

namespace Environment

def flag (environment : Environment) (name : String) (default : Bool) : Bool :=
  match environment.lookup name with
  | some "true" => true
  | some "false" => false
  | _ => default

/-- A value with something other than blanks in it. -/
def filled? (environment : Environment) (name : String) : Option String :=
  (environment.lookup name).filter fun value => !Text.isAllBlank value

def isSet (environment : Environment) (name : String) : Bool :=
  ((environment.lookup name).filter fun value => value != "").isSome

/-- Whether replies are in colours, which must be asked for since they may go to a file. -/
def hasColours (environment : Environment) : Bool :=
  environment.isSet "CLICOLOR_FORCE" && !environment.isSet "NO_COLOR"

end Environment

def Environment.fileVariable : String := "CLEX_CONFIG"

def Environment.variables : List String :=
  [fileVariable, "CLEX_NORMALIZE_LINE_ENDINGS", "CLEX_ENABLE_PERFORMANCE_LOGGING",
    "CLEX_WARN_ON_LARGE_FILES", "CLEX_LEXICAL_DETAILED_METRICS", "CLEX_LEXICAL_WARN_ON_UNMATCHED",
    "CLEX_LEXICAL_INCLUDE_POSITIONS", "CLEX_LEXICAL_TRACK_OPERATORS",
    "CLEX_SYMBOLS_ENFORCE_LIMIT", "CLEX_SYMBOLS_LOG_NEW_IDENTIFIERS", "CLEX_JSON_SUMMARY",
    "CLEX_REPORT_WRITE_WITHOUT_TOKENS", "CLEX_LOGGING_USE_STRUCTURED",
    "CLEX_LOGGING_ENABLE_CONSOLE", "CLEX_LOGGING_MIN_LEVEL", "CLEX_LOGGING_LOG_PERFORMANCE",
    "CLEX_LOGGING_CARGO_STYLE", "CLEX_LOGGING_INCLUDE_FILE_CONTEXT", "CLICOLOR_FORCE",
    "NO_COLOR"]

def Notice.Level.ofSpelling? (spelling : String) : Option Notice.Level :=
  let lower := Text.lowercase spelling
  if lower = "error" ∨ lower = "0" then some .error
  else if lower = "warning" ∨ lower = "warn" ∨ lower = "1" then some .warning
  else if lower = "info" ∨ lower = "2" then some .info
  else if lower = "debug" ∨ lower = "3" then some .debug
  else none

def FilePreferences.ofEnvironment (environment : Environment) : FilePreferences where
  normalizeLineEndings := environment.flag "CLEX_NORMALIZE_LINE_ENDINGS" true
  logPerformance := environment.flag "CLEX_ENABLE_PERFORMANCE_LOGGING" true
  warnOnLargeFiles := environment.flag "CLEX_WARN_ON_LARGE_FILES" true

def LexicalPreferences.ofEnvironment (environment : Environment) : LexicalPreferences where
  collectDetails := environment.flag "CLEX_LEXICAL_DETAILED_METRICS" true
  warnOnUnmatched := environment.flag "CLEX_LEXICAL_WARN_ON_UNMATCHED" true
  includePositions := environment.flag "CLEX_LEXICAL_INCLUDE_POSITIONS" true
  trackOperators := environment.flag "CLEX_LEXICAL_TRACK_OPERATORS" false

def SymbolPreferences.ofEnvironment (environment : Environment) : SymbolPreferences where
  enforceLimit := environment.flag "CLEX_SYMBOLS_ENFORCE_LIMIT" true
  logNewIdentifiers := environment.flag "CLEX_SYMBOLS_LOG_NEW_IDENTIFIERS" false

def ReportPreferences.ofEnvironment (environment : Environment) : ReportPreferences where
  summaryPath := environment.filled? "CLEX_JSON_SUMMARY"
  reportWithoutTokens := environment.flag "CLEX_REPORT_WRITE_WITHOUT_TOKENS" true

def NoticePreferences.ofEnvironment (environment : Environment) : NoticePreferences where
  structured := environment.flag "CLEX_LOGGING_USE_STRUCTURED" false
  console := environment.flag "CLEX_LOGGING_ENABLE_CONSOLE" false
  minLevel :=
    ((environment.lookup "CLEX_LOGGING_MIN_LEVEL").bind Notice.Level.ofSpelling?).getD .info
  performance := environment.flag "CLEX_LOGGING_LOG_PERFORMANCE" true
  summarize := environment.flag "CLEX_LOGGING_CARGO_STYLE" true
  nameFile := environment.flag "CLEX_LOGGING_INCLUDE_FILE_CONTEXT" true

def Preferences.ofEnvironment (environment : Environment) : Preferences where
  files := .ofEnvironment environment
  lexical := .ofEnvironment environment
  symbols := .ofEnvironment environment
  report := .ofEnvironment environment
  notices := .ofEnvironment environment

end LexReport
