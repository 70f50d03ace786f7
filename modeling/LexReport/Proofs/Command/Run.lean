import LexReport.Command.Run
import LexReport.Profile.Problem
import LexReport.Proofs.Analysis.Outputs
import LexReport.Proofs.Input.Outcome
import LexReport.Proofs.Report.Lines

/-! How a run of the command ends: its exit code, the report that it leaves, and what it says of an
analysis that found no tokens or was not completed. -/

set_option autoImplicit false

namespace LexReport

namespace Command

open Notice
open Report (unlines rule tokenLine)

section Lines

def openingLines (arguments : Arguments) : List String :=
  ["LEXICAL ANALYZER WITH SYMBOL TABLE", rule 60 '=',
    "This program reads C code from '" ++ arguments.input ++ "' file",
    "and generates a symbol table in '" ++ arguments.output ++ "'", rule 60 '-',
    "LEXICAL ANALYZER - TXT FILE INPUT", rule 50 '=']

def resultLines (arguments : Arguments) (result : Analysis.Result) : List String :=
  ["Reading code from: " ++ arguments.input, "Code content:", rule 20 '-', result.source.text,
    "", "Analyzing...", "", "TOKENS GENERATED:", rule 30 '='] ++
  result.findings.tokens.map tokenLine ++
  (if result.isReportWritten then ["", "Symbol table saved to: " ++ arguments.output] else []) ++
  ["Total tokens found: " ++ toString result.findings.tokens.length,
    "Total unique identifiers: " ++ toString result.findings.gathered.identifiers.size]

def errorLine (limits : Limits) (arguments : Arguments) (error : Analysis.Error) : String :=
  match error.inputFailure? with
  | some .missing => "Error: File '" ++ arguments.input ++ "' not found!"
  | some .unreadable =>
    "Error: File '" ++ arguments.input ++ "' could not be read: " ++ error.message limits
  | none => "Error: " ++ error.message limits

def successLines (arguments : Arguments) : List String :=
  ["", "Analysis completed successfully!",
    "Check '" ++ arguments.output ++ "' for detailed symbol table"]

def failureLine : String := "Analysis failed or no code found!"

theorem opening_eq (arguments : Arguments) :
    opening arguments = unlines (openingLines arguments) :=
  rfl

theorem resultText_eq (arguments : Arguments) (result : Analysis.Result) :
    resultText arguments result = unlines (resultLines arguments result) := by
  unfold resultText resultLines
  rw [Report.unlines_append, Report.unlines_append, Report.unlines_append]
  cases result.isReportWritten <;> rfl

theorem errorText_eq (limits : Limits) (arguments : Arguments) (error : Analysis.Error) :
    errorText limits arguments error = unlines [errorLine limits arguments error] := by
  rw [Report.unlines_cons]
  unfold errorText errorLine
  cases error.inputFailure? with
  | none => simp [unlines, String.append_assoc]
  | some failure => cases failure <;> simp [unlines, String.append_assoc]

theorem closingText_eq (arguments : Arguments) (isSuccess : Bool) :
    closingText arguments isSuccess =
      unlines (if isSuccess then successLines arguments else [failureLine]) := by
  cases isSuccess <;> rfl

end Lines

section Told

def toldLines (limits : Limits) (arguments : Arguments) :
    Except (Stop Analysis.Error) (Option Analysis.Result) → List String
  | .ok (some result) => resultLines arguments result
  | .ok none | .error .panicked => []
  | .error (.failed error) => [errorLine limits arguments error]

variable {limits : Limits} {surroundings : Surroundings} {paths : Arguments}
  {worked : Files.Worked (Stop Analysis.Error) (Option Analysis.Result)} {journal : Notice.Journal}

theorem ofAnalysis_tree :
    (Finish.ofAnalysis limits surroundings paths worked journal).tree = worked.tree := by
  unfold Finish.ofAnalysis
  split <;> rfl

theorem ofAnalysis_of_tokens {result : Analysis.Result} (ended : worked.result = .ok (some result))
    (found : result.findings.tokens ≠ []) :
    (Finish.ofAnalysis limits surroundings paths worked journal).exitCode = exitSuccess ∧
      (Finish.ofAnalysis limits surroundings paths worked journal).output =
        unlines (openingLines paths ++ resultLines paths result ++ successLines paths) := by
  have outcome : Analysis.outcome worked = .ok (.completed result worked.tree) := by
    rw [Analysis.outcome, ended]
    rfl
  have success : (Analysis.Outcome.completed result worked.tree).isSuccess = true := by
    simpa [Analysis.Outcome.isSuccess, Analysis.Result.hasTokens] using found
  unfold Finish.ofAnalysis narrated narration
  rw [outcome]
  dsimp only
  rw [success, opening_eq, resultText_eq, closingText_eq, Report.unlines_append,
    Report.unlines_append]
  exact ⟨rfl, rfl⟩

theorem ofAnalysis_of_no_tokens (finished : worked.result ≠ .error .panicked)
    (bare : ∀ result, worked.result = .ok (some result) → result.findings.tokens = []) :
    (Finish.ofAnalysis limits surroundings paths worked journal).exitCode = exitFailure ∧
      (Finish.ofAnalysis limits surroundings paths worked journal).output =
        unlines (openingLines paths ++ toldLines limits paths worked.result ++ [failureLine]) := by
  unfold Finish.ofAnalysis narrated narration Analysis.outcome
  rw [Report.unlines_append, Report.unlines_append]
  cases ended : worked.result with
  | error stop =>
    cases stop with
    | panicked => exact absurd ended finished
    | failed error =>
      refine ⟨rfl, ?_⟩
      rw [toldLines, ← errorText_eq]
      rfl
  | ok found =>
    cases found with
    | none => exact ⟨rfl, rfl⟩
    | some result =>
      have noSuccess : (Analysis.Outcome.completed result worked.tree).isSuccess = false := by
        rw [Analysis.Outcome.isSuccess, Analysis.Result.hasTokens, bare result ended]
        rfl
      dsimp only [Except.map]
      rw [noSuccess, toldLines, ← resultText_eq]
      exact ⟨rfl, rfl⟩

end Told

section Exits

/-- Limits that a build may have and with which the command gets as far as an analysis. -/
structure Starts (limits : Limits) : Prop where
  built : Profile.generalProblem? limits = none
  notices : Notice.limitsProblem? limits.notices = none
  tokens : 0 < limits.lexical.maxTokenCount

theorem Starts.fileSize {limits : Limits} (starts : Starts limits) :
    limits.files.maxFileSize ≤ Profile.absoluteMaxFileSize := by
  by_contra large
  have built := starts.built
  rw [Profile.generalProblem?, if_pos (Nat.lt_of_not_le large)] at built
  contradiction

theorem Starts.identifiers {limits : Limits} (starts : Starts limits) :
    limits.lexical.maxIdentifierLength ≠ 0 := by
  intro zero
  have built := starts.built
  rw [Profile.generalProblem?, if_pos zero] at built
  split at built
  · contradiction
  · split at built
    · contradiction
    · split at built <;> contradiction

theorem Starts.prepare {limits : Limits} (starts : Starts limits) (build : Build) :
    (Analysis.prepare limits build).result = .ok () := by
  have checked : (Analysis.checkLexicalLimits limits.lexical).result = .ok () := by
    rw [Analysis.checkLexicalLimits, if_neg starts.tokens.ne',
      if_neg starts.identifiers]
    rfl
  rw [Analysis.prepare, Stage.bind_of_ok _ rfl, Stage.bind_of_ok _ rfl,
    Stage.bind_of_ok _ checked]
  rfl

def settingOf (limits : Limits) (build : Build) (preferences : Preferences) : Analysis.Setting :=
  ⟨limits, build, preferences, toldLevel limits.notices preferences.notices⟩

def analysisOf (limits : Limits) (build : Build) (surroundings : Surroundings) (paths : Arguments)
    (preferences : Preferences) : Files.Worked (Stop Analysis.Error) (Option Analysis.Result) :=
  Analysis.run (settingOf limits build preferences) surroundings.times ⟨paths.input, paths.output⟩
    surroundings.tree

variable {limits : Limits} {build : Build} {surroundings : Surroundings}
  {arguments : List String} {paths : Arguments}

theorem run_of_loaded (starts : Starts limits) (asked : readArguments arguments = .analysis paths)
    {preferences : Preferences}
    (loaded : Config.load surroundings.environment surroundings.tree = .ok preferences) :
    ∃ journal, run limits build surroundings arguments =
      .ofAnalysis limits surroundings paths
        (analysisOf limits build surroundings paths preferences) journal := by
  unfold run
  rw [asked]
  dsimp only
  rw [loaded]
  dsimp only
  rw [starts.notices]
  dsimp only
  unfold analyze
  dsimp only
  rw [starts.prepare]
  dsimp only
  rw [Analysis.workIn_worked]
  exact ⟨_, rfl⟩

theorem run_of_unloaded (asked : readArguments arguments = .analysis paths)
    {error : Config.LoadError}
    (unloaded : Config.load surroundings.environment surroundings.tree = .error error) :
    run limits build surroundings arguments = stopped surroundings "" error.detail := by
  unfold run
  rw [asked]
  dsimp only
  rw [unloaded]

/-- A text within the limits on files is too short for a panic. -/
theorem finished_of_starts (starts : Starts limits) (preferences : Preferences) :
    (analysisOf limits build surroundings paths preferences).result ≠ .error .panicked := by
  intro panicked
  have course : Analysis.Course _ _ _ _
      (analysisOf limits build surroundings paths preferences).result
      (analysisOf limits build surroundings paths preferences).tree :=
    Analysis.run_course _ _ _ _
  rw [panicked] at course
  generalize (analysisOf limits build surroundings paths preferences).tree = after at course
  cases course with
  | unexamined read stopped =>
    have short := Input.byteSize_of_read (Analysis.readInput_eq_some read)
    have most : limits.files.maxFileSize ≤ 1000000000 := starts.fileSize
    refine Scan.not_panicked_of_short ?_ (Analysis.scan_of_examine_panicked stopped)
    exact lt_of_le_of_lt (short.trans most) (by decide)

/-- What a run says of an analysis that is not completed or finds no tokens, by what is at the path
of its input. -/
inductive Explained (setting : Analysis.Setting) (tree : Files.Tree) (paths : Arguments) :
    Except (Stop Analysis.Error) (Option Analysis.Result) → List String → Prop where
  | missing {error : Analysis.Error} (kind : error.inputFailure? = some .missing)
      (absent : Input.IsAbsent tree paths.input) :
      Explained setting tree paths (.error (.failed error))
        ["Error: File '" ++ paths.input ++ "' not found!"]
  | unreadable {error : Analysis.Error} (kind : error.inputFailure? = some .unreadable)
      (unusable :
        Input.IsUnusable setting.limits.files setting.preferences.files tree paths.input) :
      Explained setting tree paths (.error (.failed error))
        ["Error: File '" ++ paths.input ++ "' could not be read: " ++ error.message setting.limits]
  | later {error : Analysis.Error} (kind : error.inputFailure? = none)
      (usable : Input.IsUsable setting.limits.files setting.preferences.files tree paths.input) :
      Explained setting tree paths (.error (.failed error))
        ["Error: " ++ error.message setting.limits]
  | noCode (empty : Input.IsEmpty tree paths.input) : Explained setting tree paths (.ok none) []
  | noTokens {result : Analysis.Result}
      (usable : Input.IsUsable setting.limits.files setting.preferences.files tree paths.input)
      (bare : result.findings.tokens = []) :
      Explained setting tree paths (.ok (some result)) (resultLines paths result)

theorem explained_of_course {setting : Analysis.Setting} {times : Analysis.Times}
    {tree after : Files.Tree} {result : Except (Stop Analysis.Error) (Option Analysis.Result)}
    (course : Analysis.Course setting times ⟨paths.input, paths.output⟩ tree result after)
    (finished : result ≠ .error .panicked)
    (bare : ∀ found, result = .ok (some found) → found.findings.tokens = []) :
    Explained setting tree paths result (toldLines setting.limits paths result) := by
  have input := Analysis.readInput_cases setting times tree paths.input
  have usable {source : Input.Source}
      (read : (Analysis.readInput setting times tree paths.input).result = .ok (some source)) :
      Input.IsUsable setting.limits.files setting.preferences.files tree paths.input := by
    rw [read] at input
    simpa using input
  cases course with
  | unread stopped =>
    rename_i error
    rw [stopped] at input
    rcases input with ⟨_, same, kind, absent⟩ | ⟨_, same, kind, unusable⟩ | ⟨same, -⟩ | ⟨_, same, -⟩
    · obtain rfl := Except.error.inj same
      rw [toldLines, errorLine, kind]
      exact .missing kind absent
    · obtain rfl := Except.error.inj same
      rw [toldLines, errorLine, kind]
      exact .unreadable kind unusable
    · contradiction
    · contradiction
  | noCode empty =>
    rw [empty] at input
    exact .noCode (by simpa using input)
  -- What goes wrong from here on is no fault of the input, which was read.
  | @unexamined source stop read stopped =>
    cases stop with
    | panicked => exact absurd rfl finished
    | failed error =>
      have kind := Analysis.inputFailure?_of_examine stopped
      rw [toldLines, errorLine, kind]
      exact .later kind (usable read)
  | unreported read => exact .later rfl (usable read)
  | completed read => exact .noTokens (usable read) (bare _ rfl)

/-- What is at the place of the output after an analysis that found tokens: the report was written
there, and then the summary if it has the same place. -/
def OutputWritten (setting : Analysis.Setting) (times : Analysis.Times)
    (request : Analysis.Request) (tree after : Files.Tree) (result : Analysis.Result) : Prop :=
  ∃ place, tree.target request.output = .ok place ∧ after.resolve request.output = .ok place ∧
    let reported := some (Files.Node.rewritten result.report.toUTF8 (tree.node? place))
    after.node? place = reported ∨
      (∃ path, result.summaryPath = some path ∧ tree.target path = .ok place) ∧
        after.node? place = some (.rewritten
          (Analysis.summaryOf setting times request result.findings).text.toUTF8 reported)

theorem outputWritten_of_delivered {setting : Analysis.Setting} {times : Analysis.Times}
    {request : Analysis.Request} {tree after : Files.Tree} {result : Analysis.Result}
    (delivered : Analysis.Delivered setting times request tree result after)
    (isWritten : result.isReportWritten = true) :
    OutputWritten setting times request tree after result := by
  obtain ⟨place, aimed, found, reported⟩ := delivered.report isWritten
  refine ⟨place, aimed, found, ?_⟩
  by_cases same : ∃ path, result.summaryPath = some path ∧ tree.target path = .ok place
  · obtain ⟨path, isThere, summaryAimed⟩ := same
    obtain ⟨_, again, -, written⟩ := delivered.summary path isThere
    obtain rfl := Except.ok.inj (summaryAimed.symm.trans again)
    have both : result.isReportWritten = true ∧
        (tree.target request.output).toOption = some place := by
      rw [aimed]
      exact ⟨isWritten, rfl⟩
    rw [Analysis.reportedAt, if_pos both] at written
    exact .inr ⟨⟨path, isThere, summaryAimed⟩, written⟩
  · exact .inl (reported fun path isThere summaryAimed => same ⟨path, isThere, summaryAimed⟩)

section Ways

variable (starts : Starts limits) (asked : readArguments arguments = .analysis paths)
  {preferences : Preferences}
  (loaded : Config.load surroundings.environment surroundings.tree = .ok preferences)
include starts asked loaded

theorem run_of_tokens {result : Analysis.Result}
    (completed : (analysisOf limits build surroundings paths preferences).result =
      .ok (some result)) (found : result.findings.tokens ≠ []) :
    (run limits build surroundings arguments).exitCode = exitSuccess ∧
      (run limits build surroundings arguments).tree =
        (analysisOf limits build surroundings paths preferences).tree ∧
      (run limits build surroundings arguments).output =
        unlines (openingLines paths ++ resultLines paths result ++ successLines paths) := by
  obtain ⟨journal, ended⟩ := @run_of_loaded _ build _ _ _ starts asked _ loaded
  obtain ⟨exits, printed⟩ := @ofAnalysis_of_tokens limits surroundings paths _ journal _ completed
    found
  rw [ended]
  exact ⟨exits, ofAnalysis_tree, printed⟩

theorem run_of_no_tokens
    (bare : ∀ result, (analysisOf limits build surroundings paths preferences).result =
      .ok (some result) → result.findings.tokens = []) :
    (run limits build surroundings arguments).exitCode = exitFailure ∧ ∃ lines,
      Explained (settingOf limits build preferences) surroundings.tree paths
        (analysisOf limits build surroundings paths preferences).result lines ∧
      (run limits build surroundings arguments).output =
        unlines (openingLines paths ++ lines ++ [failureLine]) := by
  have finished : (analysisOf limits build surroundings paths preferences).result ≠ _ :=
    finished_of_starts starts preferences
  obtain ⟨journal, ended⟩ := @run_of_loaded _ build _ _ _ starts asked _ loaded
  obtain ⟨exits, printed⟩ :=
    @ofAnalysis_of_no_tokens limits surroundings paths _ journal finished bare
  rw [ended]
  exact ⟨exits, _, explained_of_course (Analysis.run_course _ _ _ _) finished bare, printed⟩

end Ways

/-- A run ends well if and only if its preferences load and its analysis completes with some token.
Then the report is written and the tokens and totals are printed; and if only the preferences load,
the last line says that nothing came of the run, and the line before why. -/
theorem run_exits (starts : Starts limits) (asked : readArguments arguments = .analysis paths) :
    let finish := run limits build surroundings arguments
    let load := Config.load surroundings.environment surroundings.tree
    let analysis := analysisOf limits build surroundings paths
    (finish.exitCode = 0 ↔ ∃ preferences result, load = .ok preferences ∧
      (analysis preferences).result = .ok (some result) ∧ result.findings.tokens ≠ []) ∧
    ∀ preferences, load = .ok preferences →
      (∀ result, (analysis preferences).result = .ok (some result) →
        result.findings.tokens ≠ [] →
          result.isReportWritten = true ∧
          OutputWritten (settingOf limits build preferences) surroundings.times
            ⟨paths.input, paths.output⟩ surroundings.tree finish.tree result ∧
          finish.output =
            unlines (openingLines paths ++ resultLines paths result ++ successLines paths)) ∧
      (finish.exitCode ≠ 0 → ∃ lines,
        Explained (settingOf limits build preferences) surroundings.tree paths
          (analysis preferences).result lines ∧
        finish.output = unlines (openingLines paths ++ lines ++ [failureLine])) := by
  dsimp only
  cases loaded : Config.load surroundings.environment surroundings.tree with
  | error error =>
    -- The run stops before an analysis, whatever is at the paths.
    rw [run_of_unloaded asked loaded]
    refine ⟨iff_of_false Nat.one_ne_zero ?_, ?_⟩
    · rintro ⟨_, _, impossible, -⟩
      cases impossible
    · intro _ impossible
      cases impossible
  | ok preferences =>
    have well {result : Analysis.Result} :=
      @run_of_tokens _ build _ _ _ starts asked _ loaded result
    have badly := @run_of_no_tokens _ build _ _ _ starts asked _ loaded
    have course : Analysis.Course _ _ _ _
        (analysisOf limits build surroundings paths preferences).result
        (analysisOf limits build surroundings paths preferences).tree :=
      Analysis.run_course _ _ _ _
    -- From here on all that counts of the run is told by the two ways in which it ends.
    generalize run limits build surroundings arguments = finish at *
    refine ⟨⟨fun exits => ?_, ?_⟩, ?_⟩
    · by_contra unfound
      have bare (result : Analysis.Result)
          (completed : (analysisOf limits build surroundings paths preferences).result =
            .ok (some result)) : result.findings.tokens = [] := by
        by_contra found
        exact unfound ⟨preferences, result, rfl, completed, found⟩
      exact Nat.one_ne_zero ((badly bare).1.symm.trans exits)
    · rintro ⟨_, result, ⟨⟩, completed, found⟩
      exact (well completed found).1
    · rintro _ ⟨⟩
      refine ⟨?_, ?_⟩
      · intro result completed found
        obtain ⟨-, left, printed⟩ := well completed found
        rw [completed] at course
        have delivered := Analysis.delivered_of_course course
        have isWritten : result.isReportWritten = true := delivered.isReportWritten.mpr (.inl found)
        rw [left]
        exact ⟨isWritten, outputWritten_of_delivered delivered isWritten, printed⟩
      · intro fails
        refine (badly ?_).2
        intro result completed
        by_contra found
        exact fails (well completed found).1

section OneName

def oneName : Surroundings where
  environment := []
  tree := { home := [], nodes := [(["in"], .file (String.ofList ['a']).toUTF8)] }

theorem accepts_oneName : oneName.tree.Accepts "out" := by
  have aimed : oneName.tree.target "out" = .ok ["out"] := rfl
  have free : oneName.tree.node? ["out"] = none := rfl
  exact ⟨["out"], aimed, by simp [free], rfl⟩

theorem run_exits_one_name :
    (Starts .development ∧ readArguments ["in", "out"] = .analysis ⟨"in", "out"⟩) ∧
      (run .development .standard oneName ["in", "out"]).exitCode = 0 ∧
      ∃ result, result.findings.tokens = [⟨.identifier, "a", ⟨0, 1, 1⟩, ⟨1, 1, 2⟩⟩] ∧
        (run .development .standard oneName ["in", "out"]).output =
          unlines (openingLines ⟨"in", "out"⟩ ++ resultLines ⟨"in", "out"⟩ result ++
            successLines ⟨"in", "out"⟩) := by
  have starts : Starts .development := ⟨rfl, rfl, by decide⟩
  have asked : readArguments ["in", "out"] = .analysis ⟨"in", "out"⟩ := by decide
  have resolved : oneName.tree.resolve "in" = .ok ["in"] := rfl
  obtain ⟨result, completed, tokens⟩ := @Analysis.run_of_name {} oneName.tree ["in"] .info
    ⟨"in", "out"⟩ resolved rfl ⟨⟨rfl, rfl⟩, rfl⟩ accepts_oneName
  have found : result.findings.tokens ≠ [] := by
    rw [tokens]
    exact List.cons_ne_nil _ _
  have loaded : Config.load oneName.environment oneName.tree = .ok {} := rfl
  obtain ⟨exits, narrated⟩ := @run_exits .development .standard oneName ["in", "out"]
    ⟨"in", "out"⟩ starts asked
  obtain ⟨-, -, printed⟩ := (narrated _ loaded).1 result completed found
  exact ⟨⟨starts, asked⟩, exits.mpr ⟨_, result, loaded, completed, found⟩, result, tokens, printed⟩

end OneName

end Exits

end Command

end LexReport
