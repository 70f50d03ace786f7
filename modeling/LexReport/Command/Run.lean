import LexReport.Analysis.Preparation
import LexReport.Command.Narration
import LexReport.Command.Replies
import LexReport.Config.Load

/-! A run of the command, from its arguments to what it prints, and the files afterwards. -/

set_option autoImplicit false

namespace LexReport.Command

open Notice

structure Surroundings where
  environment : Environment
  tree : Files.Tree
  times : Analysis.Times := {}

structure Finish where
  exitCode : Nat
  /-- What is printed, and what is printed beside it on the stream for errors. -/
  output : String
  errors : String
  tree : Files.Tree

def exitSuccess : Nat := 0
def exitFailure : Nat := 1
def exitMisuse : Nat := 2
def exitPanic : Nat := 101

def shownText (moment : Instant) (outlet : Outlet) : String :=
  Report.unlines (outlet.fan.targets.flatMap (Target.lines moment))

def digestText (journal : Journal) : String :=
  let totals := journal.ledger.totals
  if journal.preferences.summarize && (totals.errors != 0 || totals.warnings != 0) then
    journal.ledger.digest ++ "\n"
  else ""

def stopped (surroundings : Surroundings) (shown reason : String) : Finish :=
  ⟨exitFailure, "", shown ++ "Error: " ++ reason ++ "\n", surroundings.tree⟩

/-- What is said of a panic, which arises from a number that would be negative. -/
def panicText : String := "attempt to subtract with overflow\n"

def narrated (limits : Limits) (surroundings : Surroundings) (arguments : Arguments)
    (journal : Journal) (tree : Files.Tree) (answer : Except Analysis.Error Analysis.Outcome) :
    Finish where
  exitCode := match answer with
    | .ok outcome => if outcome.isSuccess then exitSuccess else exitFailure
    | .error _ => exitFailure
  output := narration limits arguments answer
  errors := shownText surroundings.times.moment journal.outlet ++ digestText journal
  tree := tree

def Finish.ofAnalysis (limits : Limits) (surroundings : Surroundings) (arguments : Arguments)
    (worked : Files.Worked (Stop Analysis.Error) (Option Analysis.Result)) (journal : Journal) :
    Finish :=
  match Analysis.outcome worked with
  | .ok outcome => narrated limits surroundings arguments journal worked.tree (.ok outcome)
  | .error (.failed error) =>
    narrated limits surroundings arguments journal worked.tree (.error error)
  | .error .panicked =>
    ⟨exitPanic, opening arguments,
      shownText surroundings.times.moment journal.outlet ++ panicText, worked.tree⟩

def analyze (limits : Limits) (build : Build) (surroundings : Surroundings)
    (arguments : Arguments) (preferences : Preferences) : Finish :=
  let notices := preferences.notices
  let started : Journal := ⟨notices, none, .empty, preferredOutlet limits.notices notices⟩
  let started := started.pass limits.notices
    (.success .systemInitialized "Global logging system initialized")
  let preparation := Analysis.prepare limits build
  let prepared := started.tellAll limits.notices preparation.events
  match preparation.result with
  | .error unready =>
    stopped surroundings (shownText surroundings.times.moment prepared.outlet)
      (Text.quoted unready.message)
  | .ok () =>
    let begun := prepared.tell limits.notices
      ((Event.info "clex starting").detail "input" arguments.input)
    let setting : Analysis.Setting := ⟨limits, build, preferences, toldLevel limits.notices notices⟩
    let (worked, journal) := Analysis.workIn begun setting surroundings.times surroundings.tree
      ⟨arguments.input, arguments.output⟩
    .ofAnalysis limits surroundings arguments worked journal

def run (limits : Limits) (build : Build) (surroundings : Surroundings)
    (arguments : List String) : Finish :=
  let hasColours := surroundings.environment.hasColours
  match readArguments arguments with
  | .refused refusal => ⟨exitMisuse, "", refusal.toned.shown hasColours, surroundings.tree⟩
  | .question flag => ⟨exitSuccess, flag.answer.shown hasColours, "", surroundings.tree⟩
  | .analysis arguments =>
    match Config.load surroundings.environment surroundings.tree with
    | .error error => stopped surroundings "" error.detail
    | .ok preferences =>
      match limitsProblem? limits.notices with
      | some problem =>
        stopped surroundings "" (Text.quoted ("Configuration validation failed: " ++ problem))
      | none => analyze limits build surroundings arguments preferences

/-- The paths of the preferences file, the input and the report, and that of the summary as far as
the files at hand tell. -/
def neededPaths (surroundings : Surroundings) (arguments : List String) : List String :=
  match readArguments arguments with
  | .analysis paths =>
    let environment := surroundings.environment
    let summaryPath := match Config.load environment surroundings.tree with
      | .ok preferences => preferences.report.summaryPath
      | .error _ => none
    (environment.filled? Environment.fileVariable).toList ++ [paths.input, paths.output] ++
      summaryPath.toList
  | .question _ | .refused _ => []

end LexReport.Command
