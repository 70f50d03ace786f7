import LexReport.Notice.Journal

/-! How much is told, and a text that says so. -/

set_option autoImplicit false

namespace LexReport.Notice

structure Build where
  profile : String
  directory : String
  deriving DecidableEq, Repr

def Build.standard : Build := ⟨"development", "config"⟩

def Build.text (build : Build) : String :=
  "Generated from " ++ build.directory ++ "/" ++ build.profile ++ ".toml"

/-- The level that is always told, whatever the user prefers. -/
def floorLevel (limits : NoticeLimits) : Level :=
  match limits.floorLevel with
  | 0 => .error
  | 1 => .warning
  | _ => .info

def toldLevel (limits : NoticeLimits) (preferences : NoticePreferences) : Level :=
  preferences.minLevel.mostVerbose (floorLevel limits)

def preferredOutlet (limits : NoticeLimits) (preferences : NoticePreferences) : Outlet :=
  let level := toldLevel limits preferences
  let targets :=
    if preferences.console then
      [Target.screen (if preferences.structured then .json else .plain) level #[]]
    else []
  ⟨level, ⟨level, targets⟩⟩

def limitsProblem? (limits : NoticeLimits) : Option String :=
  if limits.maxCollected = 0 then some "Error collection size must be non-zero"
  else if limits.maxCollected < limits.maxPerFile then
    some "Max log events per file exceeds total collection size"
  else if limits.maxMessageLength < 64 then
    some ("Max log message length too small: " ++ toString limits.maxMessageLength)
  else none

def Level.name : Level → String
  | .error => "Error"
  | .warning => "Warning"
  | .info => "Info"
  | .debug => "Debug"

def settingsText (limits : NoticeLimits) (build : Build) (preferences : NoticePreferences) :
    String :=
  "\n".intercalate
    ["Logging Configuration:",
      "=== Compile-time Limits (" ++ build.text ++ ") ===",
      "- Max collected events: " ++ toString limits.maxCollected,
      "- Max events per file: " ++ toString limits.maxPerFile,
      "- Max message length: " ++ toString limits.maxMessageLength,
      "- Security min level: " ++ toString limits.floorLevel,
      "=== User Preferences (Runtime) ===",
      "- Min log level: " ++ preferences.minLevel.name,
      "- Structured logging: " ++ toString preferences.structured,
      "- Console logging: " ++ toString preferences.console,
      "- Performance events: " ++ toString preferences.performance,
      "- Cargo-style output: " ++ toString preferences.summarize,
      "- Include file context: " ++ toString preferences.nameFile]

def Journal.overview (limits : NoticeLimits) (build : Build) (journal : Journal) : String :=
  let totals := journal.ledger.totals
  "\n".intercalate
    ["=== Logging System Diagnostics ===", "Initialized: true",
      "Files processed: " ++ toString totals.files,
      "Total errors: " ++ toString totals.errors,
      "Total warnings: " ++ toString totals.warnings,
      "",
      settingsText limits build journal.preferences]

end LexReport.Notice
