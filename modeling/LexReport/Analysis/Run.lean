import LexReport.Analysis.Findings
import LexReport.Input.Read
import LexReport.Notice.Overview
import LexReport.Report.Delivery
import LexReport.Report.Layout
import LexReport.Report.Summary

/-! An analysis from file to file: the input is read and examined, and the report is written, with
a summary beside it if one is wanted. -/

set_option autoImplicit false

namespace LexReport.Analysis

open Notice

structure Setting where
  limits : Limits := .development
  build : Build := .standard
  preferences : Preferences := {}
  /-- The most verbose level that is told when the analysis is made. -/
  level : Level := .debug

structure Request where
  input : String
  output : String
  deriving DecidableEq, Repr

/-- When an analysis is made, and the nanoseconds that reading and the whole of it take. -/
structure Times where
  moment : Instant := ⟨0, 0⟩
  reading : Nat := 0
  whole : Nat := 0

structure Result where
  source : Input.Source
  findings : Findings
  isReportWritten : Bool
  /-- Where the summary is, if one was wanted and could be written. -/
  summaryPath : Option String

def Result.hasTokens (result : Result) : Bool := !result.findings.tokens.isEmpty

/-- What became of an analysis that did not fail, and the files afterwards. -/
inductive Outcome where
  | completed (result : Result) (tree : Files.Tree)
  /-- The input holds no text; nothing was examined or written. -/
  | noCode

def Outcome.isSuccess : Outcome → Bool
  | completed result _ => result.hasTokens
  | noCode => false

def outcome (worked : Files.Worked (Stop Error) (Option Result)) : Except (Stop Error) Outcome :=
  worked.result.map fun
    | some result => .completed result worked.tree
    | none => .noCode

/-- Read the input; none if it is empty. -/
def readInput (setting : Setting) (times : Times) (tree : Files.Tree) (input : String) :
    Stage Error (Option Input.Source) :=
  let reading :=
    Input.read setting.limits.files setting.preferences.files tree times.reading input
  match reading.result with
  | .ok source => ⟨reading.events, .ok (some source)⟩
  | .error .emptyFile =>
    let event := (Event.info "Input holds no code, nothing to analyze").detail "input" input
    ⟨reading.events ++ [event], .ok none⟩
  | .error error => ⟨reading.events, .error (.input error)⟩

def Setting.scanSettings (setting : Setting) : Scan.Settings :=
  { limits := setting.limits
    lexical := setting.preferences.lexical
    symbols := setting.preferences.symbols
    level := setting.level }

def beginEvent (limits : Limits) (source : Input.Source) : Event :=
  (Event.debug "Starting lexical analysis").details
    [("file", source.path), ("char_count", toString source.charCount),
      ("line_count", toString source.lineCount),
      ("max_tokens_allowed", toString limits.lexical.maxTokenCount)]

def writeReport (preferences : ReportPreferences) (output text : String) (findings : Findings) :
    Files.Work Error Bool :=
  if !findings.tokens.isEmpty || preferences.reportWithoutTokens then do
    let report := Report.render text findings.tokens findings.symbols
    (Report.deliver output report).mapError .report
    return true
  else do
    .announce ((Event.info "No tokens produced, report skipped").detail "output" output)
    return false

def summaryOf (setting : Setting) (times : Times) (request : Request) (findings : Findings) :
    Report.Summary :=
  ⟨request.input, request.output, times.moment, setting.build.profile, findings.tokens,
    findings.symbols, findings.gathered⟩

/-- Write the summary if one is wanted, and tell where it is. A failure is told, and the analysis
goes on. -/
def writeSummary (setting : Setting) (times : Times) (request : Request) (findings : Findings) :
    Files.Work Error (Option String) :=
  match setting.preferences.report.summaryPath with
  | none => pure none
  | some path => do
    let summary := summaryOf setting times request findings
    let written ← (Report.deliverDocument path summary.document).attempt
    return written.map fun () => path

def successEvent (times : Times) (input : String) (findings : Findings) : Event :=
  (Event.success .analysisCompleted "Lexical analysis pipeline succeeded").details
    [("file", input), ("tokens", toString findings.tokens.length),
      ("unique_symbols", toString findings.symbols.size),
      ("unique_identifiers", toString findings.gathered.identifiers.size),
      ("gaps", toString findings.gathered.metrics.gaps),
      ("duration_ms", Input.millisecondsText 2 times.whole)]

def report (setting : Setting) (times : Times) (request : Request) (source : Input.Source)
    (findings : Findings) : Files.Work Error Result := do
  let isReportWritten ←
    writeReport setting.preferences.report request.output source.text findings
  let summaryPath ← writeSummary setting times request findings
  .announce (successEvent times request.input findings)
  return ⟨source, findings, isReportWritten, summaryPath⟩

def run (setting : Setting) (times : Times) (request : Request) :
    Files.Work (Stop Error) (Option Result) := do
  .announce ((Event.info "Starting lexical analysis pipeline").details
    [("input", request.input), ("output", request.output)])
  match ← (Files.Work.look fun tree => readInput setting times tree request.input).mapError
      .failed with
  | none => return none
  | some source =>
    .announce (beginEvent setting.limits source)
    let findings ← .ofStage (examine setting.scanSettings source.text)
    let result ← (report setting times request source findings).mapError .failed
    return some result

/-- Run an analysis with its input as the file at hand, and tell what it says. A panic leaves the
file at hand. -/
def workIn (journal : Journal) (setting : Setting) (times : Times) (tree : Files.Tree)
    (request : Request) : Files.Worked (Stop Error) (Option Result) × Journal :=
  let worked := run setting times request tree
  let file : FileScope := ⟨request.input, 0⟩
  let tell (journal : Journal) := (worked, journal.tellAll setting.limits.notices worked.events)
  match worked.result with
  | .error .panicked => tell (journal.enter file)
  | _ => journal.within file tell

def runIn (journal : Journal) (setting : Setting) (times : Times) (tree : Files.Tree)
    (request : Request) : Except (Stop Error) Outcome × Journal :=
  let (worked, journal) := workIn journal setting times tree request
  (outcome worked, journal)

end LexReport.Analysis
