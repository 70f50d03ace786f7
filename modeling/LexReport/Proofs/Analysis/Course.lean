import LexReport.Analysis.Run
import LexReport.Proofs.Analysis.Findings
import LexReport.Proofs.Files.Tree
import LexReport.Proofs.Files.Work
import LexReport.Proofs.Input.Course

/-! How an analysis goes: its input is read and examined, and the report and the summary are
written, unless it ends before. -/

set_option autoImplicit false

namespace LexReport.Analysis

open Files

variable {setting : Setting} {times : Times} {request : Request} {tree after : Tree}
  {location : Location}

section Input

theorem readInput_result (setting : Setting) (times : Times) (tree : Tree) (input : String) :
    (readInput setting times tree input).result =
      match (Input.read setting.limits.files setting.preferences.files tree times.reading
        input).result with
      | .ok source => .ok (some source)
      | .error .emptyFile => .ok none
      | .error error => .error (.input error) := by
  unfold readInput
  dsimp only
  cases (Input.read setting.limits.files setting.preferences.files tree times.reading
    input).result with
  | ok source => rfl
  | error error => cases error <;> rfl

/-- Whether an analysis gets its input, and why it does not, by what is at the path of it. -/
theorem readInput_cases (setting : Setting) (times : Times) (tree : Tree) (input : String) :
    (∃ error, (readInput setting times tree input).result = .error error ∧
      error.inputFailure? = some .missing ∧ Input.IsAbsent tree input) ∨
    (∃ error, (readInput setting times tree input).result = .error error ∧
      error.inputFailure? = some .unreadable ∧
      Input.IsUnusable setting.limits.files setting.preferences.files tree input) ∨
    ((readInput setting times tree input).result = .ok none ∧ Input.IsEmpty tree input) ∨
    ∃ source, (readInput setting times tree input).result = .ok (some source) ∧
      Input.IsUsable setting.limits.files setting.preferences.files tree input := by
  -- An empty file is no failure: the answer is that there is no code.
  have refused {error : Input.Error} (filled : error ≠ .emptyFile)
      (read : (Input.read setting.limits.files setting.preferences.files tree times.reading
        input).result = .error error) :
      (readInput setting times tree input).result = .error (.input error) := by
    rw [readInput_result, read]
    cases error with
    | emptyFile => exact absurd rfl filled
    | _ => rfl
  rcases Input.read_cases setting.limits.files setting.preferences.files tree input times.reading
    with ⟨error, read, kind, absent⟩ | ⟨error, read, filled, kind, unusable⟩ | ⟨read, empty⟩ |
      ⟨source, read, usable⟩
  · have filled : error ≠ .emptyFile := by
      rintro rfl
      contradiction
    refine .inl ⟨_, refused filled read, ?_, absent⟩
    rw [Error.inputFailure?, if_pos kind]
  · refine .inr (.inl ⟨_, refused filled read, ?_, unusable⟩)
    rw [Error.inputFailure?, if_neg (by simp [kind])]
  · refine .inr (.inr (.inl ⟨?_, empty⟩))
    rw [readInput_result, read]
  · refine .inr (.inr (.inr ⟨source, ?_, usable⟩))
    rw [readInput_result, read]

theorem readInput_eq_some {input : String} {source : Input.Source}
    (read : (readInput setting times tree input).result = .ok (some source)) :
    (Input.read setting.limits.files setting.preferences.files tree times.reading input).result =
      .ok source := by
  unfold readInput at read
  dsimp only at read
  split at read
  · rename_i found ended
    rw [ended, Option.some.inj (Except.ok.inj read)]
  · cases read
  · cases read

theorem readInput_of_read {input : String} {source : Input.Source}
    (read : (Input.read setting.limits.files setting.preferences.files tree times.reading
      input).result = .ok source) :
    (readInput setting times tree input).result = .ok (some source) := by
  unfold readInput
  dsimp only
  rw [read]

end Input

section Steps

variable {output text : String} {findings : Findings}

theorem deliver_left (path text : String) (tree : Tree) :
    (Report.deliver path text tree).left =
      match tree.writeText path text with
      | .ok after => (.ok (), after)
      | .error failure => (.error (.writeFailed path failure.message), tree) := by
  unfold Report.deliver
  cases tree.writeText path text <;> rfl

/-- A report that lists no tokens need not be wanted. -/
def IsReportWanted (preferences : ReportPreferences) (findings : Findings) : Prop :=
  findings.tokens ≠ [] ∨ preferences.reportWithoutTokens = true

/-- What becomes of the report if it is not refused: whether it is written, and the files. -/
inductive Reported (preferences : ReportPreferences) (output text : String) (findings : Findings)
    (tree : Tree) : Bool → Tree → Prop where
  | written {after : Tree} (wanted : IsReportWanted preferences findings)
      (written : tree.writeText output
        (Report.render text findings.tokens findings.symbols) = .ok after) :
      Reported preferences output text findings tree true after
  | skipped (unwanted : ¬ IsReportWanted preferences findings) :
      Reported preferences output text findings tree false tree

theorem writeReport_cases (preferences : ReportPreferences) (output text : String)
    (findings : Findings) (tree : Tree) :
    (∃ isWritten after, Reported preferences output text findings tree isWritten after ∧
        (writeReport preferences output text findings tree).left = (.ok isWritten, after)) ∨
      ∃ failure, IsReportWanted preferences findings ∧
        tree.writeText output (Report.render text findings.tokens findings.symbols) =
          .error failure ∧
        (writeReport preferences output text findings tree).left =
          (.error (.report (.writeFailed output failure.message)), tree) := by
  have wanted : (!findings.tokens.isEmpty || preferences.reportWithoutTokens) = true ↔
      IsReportWanted preferences findings := by
    simp [IsReportWanted]
  unfold writeReport
  split
  · rename_i isWanted
    dsimp only
    rw [Work.bind_left, Work.mapError_left, deliver_left]
    cases ended : tree.writeText output
        (Report.render text findings.tokens findings.symbols) with
    | ok after => exact .inl ⟨true, after, .written (wanted.mp isWanted) ended, rfl⟩
    | error failure => exact .inr ⟨failure, wanted.mp isWanted, rfl, rfl⟩
  · rename_i notWanted
    rw [Work.bind_left, Work.announce_left]
    exact .inl ⟨false, tree, .skipped fun isWanted => notWanted (wanted.mpr isWanted), rfl⟩

section Report

variable {preferences : ReportPreferences} {isWritten : Bool}

theorem Reported.isWritten_iff
    (report : Reported preferences output text findings tree isWritten after) :
    isWritten = true ↔ IsReportWanted preferences findings := by
  cases report with
  | written wanted => exact iff_of_true rfl wanted
  | skipped unwanted => exact iff_of_false (by simp) unwanted

theorem Reported.sameDirectories
    (report : Reported preferences output text findings tree isWritten after) :
    Tree.SameDirectories tree after := by
  cases report with
  | written wanted written => exact Tree.sameDirectories_writeText written
  | skipped => exact .refl tree

theorem Reported.elsewhere
    (report : Reported preferences output text findings tree isWritten after)
    (elsewhere : isWritten = true → tree.target output ≠ .ok location) :
    after.node? location = tree.node? location := by
  cases report with
  | written wanted written => exact Tree.node?_writeText written (elsewhere rfl)
  | skipped => rfl

end Report

inductive Summarized (wanted : Option String) (text : String) (tree : Tree) :
    Option String → Tree → Prop where
  | written {path : String} {after : Tree} (isWanted : wanted = some path)
      (written : tree.writeText path text = .ok after) :
      Summarized wanted text tree (some path) after
  | refused {path : String} {failure : Failure} (isWanted : wanted = some path)
      (refused : tree.writeText path text = .error failure) :
      Summarized wanted text tree none tree
  | unwanted (unwanted : wanted = none) : Summarized wanted text tree none tree

theorem writeSummary_cases (setting : Setting) (times : Times) (request : Request)
    (findings : Findings) (tree : Tree) :
    ∃ summaryPath after,
      Summarized setting.preferences.report.summaryPath
          (summaryOf setting times request findings).text tree summaryPath after ∧
        (writeSummary setting times request findings tree).left = (.ok summaryPath, after) := by
  unfold writeSummary
  cases setting.preferences.report.summaryPath with
  | none => exact ⟨none, tree, .unwanted rfl, rfl⟩
  | some path =>
    dsimp only
    rw [Work.bind_left, Work.attempt_left, Report.Summary.document, Report.deliverDocument,
      deliver_left]
    cases ended : tree.writeText path (summaryOf setting times request findings).text with
    | ok after => exact ⟨some path, after, .written rfl ended, rfl⟩
    | error failure => exact ⟨none, tree, .refused rfl ended, rfl⟩

section Summary

variable {wanted summaryPath : Option String}

theorem Summarized.path_iff (summary : Summarized wanted text tree summaryPath after)
    (path : String) : summaryPath = some path ↔ wanted = some path ∧ tree.Accepts path := by
  cases summary with
  | written isWanted written =>
    rw [isWanted, Option.some.injEq]
    have accepts := (Tree.writeText_succeeds_iff text).mp ⟨_, written⟩
    exact ⟨fun same => ⟨same, same ▸ accepts⟩, And.left⟩
  | refused isWanted refused =>
    rw [isWanted, Option.some.injEq]
    refine iff_of_false (by simp) ?_
    rintro ⟨rfl, accepts⟩
    obtain ⟨after, written⟩ := (Tree.writeText_succeeds_iff text).mpr accepts
    rw [written] at refused
    contradiction
  | unwanted unwanted => simp [unwanted]

theorem Summarized.of_unwanted (summary : Summarized wanted text tree summaryPath after)
    (unwanted : wanted = none) : summaryPath = none ∧ after = tree := by
  cases summary with
  | written isWanted | refused isWanted => cases isWanted.symm.trans unwanted
  | unwanted => exact ⟨rfl, rfl⟩

theorem Summarized.sameDirectories (summary : Summarized wanted text tree summaryPath after) :
    Tree.SameDirectories tree after := by
  cases summary with
  | written isWanted written => exact Tree.sameDirectories_writeText written
  | refused | unwanted => exact .refl tree

theorem Summarized.elsewhere (summary : Summarized wanted text tree summaryPath after)
    (elsewhere : ∀ path, summaryPath = some path → tree.target path ≠ .ok location) :
    after.node? location = tree.node? location := by
  cases summary with
  | written isWanted written => exact Tree.node?_writeText written (elsewhere _ rfl)
  | refused | unwanted => rfl

theorem Summarized.isSome_node? (summary : Summarized wanted text tree summaryPath after)
    (there : (tree.node? location).isSome) : (after.node? location).isSome := by
  cases summary with
  | written isWanted written => exact Tree.isSome_node?_writeText written there
  | refused | unwanted => exact there

theorem Summarized.node? (summary : Summarized wanted text tree summaryPath after)
    {path : String} (isThere : summaryPath = some path) :
    ∃ place, tree.target path = .ok place ∧
      after.node? place = some (.rewritten text.toUTF8 (tree.node? place)) := by
  cases summary with
  | written isWanted written =>
    obtain rfl := Option.some.inj isThere
    obtain ⟨place, aimed, -⟩ := Tree.writeText_eq_ok_iff.mp written
    exact ⟨place, aimed, Tree.node?_of_writeText written aimed⟩
  | refused | unwanted => contradiction

end Summary

end Steps

section Course

/-- The ways in which an analysis goes, each with its result and the files that it leaves. -/
inductive Course (setting : Setting) (times : Times) (request : Request) (tree : Tree) :
    Except (Stop Error) (Option Result) → Tree → Prop where
  | unread {error : Error}
      (stopped : (readInput setting times tree request.input).result = .error error) :
      Course setting times request tree (.error (.failed error)) tree
  | noCode (empty : (readInput setting times tree request.input).result = .ok none) :
      Course setting times request tree (.ok none) tree
  | unexamined {source : Input.Source} {stop : Stop Error}
      (read : (readInput setting times tree request.input).result = .ok (some source))
      (stopped : (examine setting.scanSettings source.text).result = .error stop) :
      Course setting times request tree (.error stop) tree
  | unreported {source : Input.Source} {findings : Findings} {failure : Failure}
      (read : (readInput setting times tree request.input).result = .ok (some source))
      (examined : (examine setting.scanSettings source.text).result = .ok findings)
      (wanted : IsReportWanted setting.preferences.report findings)
      (refused : tree.writeText request.output
        (Report.render source.text findings.tokens findings.symbols) = .error failure) :
      Course setting times request tree
        (.error (.failed (.report (.writeFailed request.output failure.message)))) tree
  | completed {result : Result} {reported after : Tree}
      (read : (readInput setting times tree request.input).result = .ok (some result.source))
      (examined : (examine setting.scanSettings result.source.text).result = .ok result.findings)
      (report : Reported setting.preferences.report request.output result.source.text
        result.findings tree result.isReportWritten reported)
      (summary : Summarized setting.preferences.report.summaryPath
        (summaryOf setting times request result.findings).text reported result.summaryPath after) :
      Course setting times request tree (.ok (some result)) after

theorem report_cases (setting : Setting) (times : Times) (request : Request)
    (source : Input.Source) (findings : Findings) (tree : Tree) :
    (∃ isWritten reported summaryPath after,
      Reported setting.preferences.report request.output source.text findings tree isWritten
        reported ∧
      Summarized setting.preferences.report.summaryPath
        (summaryOf setting times request findings).text reported summaryPath after ∧
      (report setting times request source findings tree).left =
        (.ok ⟨source, findings, isWritten, summaryPath⟩, after)) ∨
    ∃ failure, IsReportWanted setting.preferences.report findings ∧
      tree.writeText request.output (Report.render source.text findings.tokens findings.symbols) =
        .error failure ∧
      (report setting times request source findings tree).left =
        (.error (.report (.writeFailed request.output failure.message)), tree) := by
  unfold report
  rw [Work.bind_left]
  obtain ⟨isWritten, reported, report, left⟩ | ⟨failure, wanted, refused, left⟩ :=
    writeReport_cases setting.preferences.report request.output source.text findings tree
  -- A summary that cannot be written is left out, and the report is as good as without one.
  · obtain ⟨summaryPath, after, summary, leftAgain⟩ :=
      writeSummary_cases setting times request findings reported
    rw [left]
    dsimp only
    rw [Work.bind_left, leftAgain]
    dsimp only
    rw [Work.bind_left, Work.announce_left]
    exact .inl ⟨isWritten, reported, summaryPath, after, report, summary, rfl⟩
  · rw [left]
    exact .inr ⟨failure, wanted, refused, rfl⟩

theorem run_course (setting : Setting) (times : Times) (request : Request) (tree : Tree) :
    Course setting times request tree (run setting times request tree).result
      (run setting times request tree).tree := by
  suffices gone : ∃ result after, Course setting times request tree result after ∧
      (run setting times request tree).left = (result, after) by
    obtain ⟨result, after, course, ended⟩ := gone
    obtain ⟨rfl, rfl⟩ := Prod.mk.inj ended
    exact course
  -- Step by step: each one leaves the files to the next, or ends the work.
  unfold run
  rw [Work.bind_left, Work.announce_left]
  dsimp only
  rw [Work.bind_left, Work.mapError_left, Work.look_left]
  cases read : (readInput setting times tree request.input).result with
  | error error => exact ⟨_, _, .unread read, rfl⟩
  | ok found =>
    cases found with
    | none => exact ⟨_, _, .noCode read, rfl⟩
    | some source =>
      dsimp only [Except.mapError]
      rw [Work.bind_left, Work.announce_left]
      dsimp only
      rw [Work.bind_left, Work.ofStage_left]
      cases examined : (examine setting.scanSettings source.text).result with
      | error stop => exact ⟨_, _, .unexamined read examined, rfl⟩
      | ok findings =>
        dsimp only
        rw [Work.bind_left, Work.mapError_left]
        obtain ⟨isWritten, reported, summaryPath, after, report, summary, left⟩ |
          ⟨failure, wanted, refused, left⟩ :=
            report_cases setting times request source findings tree
        · rw [left]
          have course : Course setting times request tree
              (.ok (some ⟨source, findings, isWritten, summaryPath⟩)) after :=
            .completed read examined report summary
          exact ⟨_, _, course, rfl⟩
        · rw [left]
          exact ⟨_, _, .unreported read examined wanted refused, rfl⟩

theorem workIn_worked (journal : Notice.Journal) (setting : Setting) (times : Times) (tree : Tree)
    (request : Request) :
    (workIn journal setting times tree request).1 = run setting times request tree := by
  unfold workIn
  dsimp only
  split <;> rfl

end Course

end LexReport.Analysis
