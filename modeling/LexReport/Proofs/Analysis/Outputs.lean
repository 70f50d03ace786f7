import LexReport.Proofs.Analysis.Course
import LexReport.Proofs.Scan.Emitted
import LexReport.Proofs.Symbol.Table
import LexReport.Proofs.Text.LineEndings

/-! The files that an analysis leaves: none is changed unless it completes, and then only the report
and the summary are written. What they are written into holds them, unless it is a device. -/

set_option autoImplicit false

namespace LexReport.Analysis

open Files

variable {setting : Setting} {times : Times} {request : Request} {tree after : Tree}
  {location : Location}

section Delivered

def Result.report (result : Result) : String :=
  Report.render result.source.text result.findings.tokens result.findings.symbols

/-- What is at a place once the report is written, if it is. -/
def reportedAt (request : Request) (tree : Tree) (result : Result) (place : Location) :
    Option Node :=
  if result.isReportWritten = true ∧ (tree.target request.output).toOption = some place then
    some (.rewritten result.report.toUTF8 (tree.node? place))
  else tree.node? place

/-- What a completed analysis has found and left. A text that is written is all that a file holds
afterwards, and is what a device is given. -/
structure Delivered (setting : Setting) (times : Times) (request : Request) (tree : Tree)
    (result : Result) (after : Tree) : Prop where
  source : ∃ raw, tree.readText request.input = .ok raw ∧
    result.source.text =
      if setting.preferences.files.normalizeLineEndings then (Text.uniformLineEndings raw).1
      else raw
  tokens : (Scan.scan setting.scanSettings result.source.text).tokens = .ok result.findings.tokens
  gathered :
    (Scan.scan setting.scanSettings result.source.text).gathered = result.findings.gathered
  symbols : (Symbol.tabulate setting.limits.symbols setting.preferences.symbols
    result.findings.tokens).result = .ok result.findings.symbols
  isReportWritten : result.isReportWritten = true ↔
    result.findings.tokens ≠ [] ∨ setting.preferences.report.reportWithoutTokens = true
  summaryPath : ∀ path, result.summaryPath = some path ↔
    setting.preferences.report.summaryPath = some path ∧ tree.Accepts path
  /-- The report is in its place, unless the summary was put there. -/
  report : result.isReportWritten = true → ∃ place, tree.target request.output = .ok place ∧
    after.resolve request.output = .ok place ∧
    ((∀ path, result.summaryPath = some path → tree.target path ≠ .ok place) →
      after.node? place = some (.rewritten result.report.toUTF8 (tree.node? place)))
  summary : ∀ path, result.summaryPath = some path → ∃ place, tree.target path = .ok place ∧
    after.resolve path = .ok place ∧
    after.node? place =
      some (.rewritten (summaryOf setting times request result.findings).text.toUTF8
        (reportedAt request tree result place))
  elsewhere : ∀ location,
    (result.isReportWritten = true → tree.target request.output ≠ .ok location) →
    (∀ path, result.summaryPath = some path → tree.target path ≠ .ok location) →
    after.node? location = tree.node? location

section Reports

variable {result : Result} {reported : Tree}

theorem Reported.node?_eq
    (report : Reported setting.preferences.report request.output result.source.text
      result.findings tree result.isReportWritten reported) (place : Location) :
    reported.node? place = reportedAt request tree result place := by
  have placed : (tree.target request.output).toOption = some place ↔
      tree.target request.output = .ok place := by
    cases tree.target request.output <;> simp [Except.toOption]
  unfold reportedAt
  split
  · rename_i both
    obtain ⟨isWritten, aimed⟩ := both
    rw [isWritten] at report
    cases report with
    | written wanted written => exact Tree.node?_of_writeText written (placed.mp aimed)
  · rename_i notBoth
    exact report.elsewhere fun isWritten aimed => notBoth ⟨isWritten, placed.mpr aimed⟩

/-- A report that was written is there after the summary, unless that is written in its place. -/
theorem Reported.kept {wanted summaryPath : Option String} {summary : String}
    (report : Reported setting.preferences.report request.output result.source.text
      result.findings tree result.isReportWritten reported)
    (summarized : Summarized wanted summary reported summaryPath after)
    (isWritten : result.isReportWritten = true) :
    ∃ place, tree.target request.output = .ok place ∧ after.resolve request.output = .ok place ∧
      ((∀ path, summaryPath = some path → tree.target path ≠ .ok place) →
        after.node? place = some (.rewritten result.report.toUTF8 (tree.node? place))) := by
  have same := report.sameDirectories
  rw [isWritten] at report
  cases report with
  | written wanted written =>
    obtain ⟨place, aimed, -⟩ := Tree.writeText_eq_ok_iff.mp written
    have held := Tree.node?_of_writeText written aimed
    have there := summarized.isSome_node? (Option.isSome_of_eq_some held)
    refine ⟨place, aimed,
      Tree.resolve_of_target ((same.trans summarized.sameDirectories).target aimed) there,
      fun apart => ?_⟩
    rw [summarized.elsewhere fun path isThere again => apart path isThere (same.symm.target again)]
    exact held

end Reports

theorem delivered_of_course {result : Result}
    (course : Course setting times request tree (.ok (some result)) after) :
    Delivered setting times request tree result after := by
  cases course with
  | completed read examined report summary =>
    rename_i reported
    obtain ⟨tokens, gathered, symbols⟩ := examine_eq_ok_iff.mp examined
    have same := report.sameDirectories
    exact {
      source := Input.text_of_read (readInput_eq_some read)
      tokens := tokens
      gathered := gathered
      symbols := symbols
      isReportWritten := report.isWritten_iff
      summaryPath := by
        intro path
        rw [summary.path_iff path]
        exact and_congr_right fun _ => ⟨same.symm.accepts, same.accepts⟩
      report := report.kept summary
      summary := by
        intro path isThere
        obtain ⟨place, aimed, written⟩ := summary.node? isThere
        have there := Tree.resolve_of_target (summary.sameDirectories.target aimed)
          (Option.isSome_of_eq_some written)
        rw [report.node?_eq] at written
        exact ⟨place, same.symm.target aimed, there, written⟩
      elsewhere := by
        intro location noReport noSummary
        rw [summary.elsewhere, report.elsewhere noReport]
        intro path isThere aimed
        exact noSummary path isThere (same.symm.target aimed) }

/-- Whether an analysis completes does not depend on the summary. -/
theorem completes_iff :
    (∃ result, (run setting times request tree).result = .ok (some result)) ↔
      ∃ source findings, (readInput setting times tree request.input).result = .ok (some source) ∧
        (examine setting.scanSettings source.text).result = .ok findings ∧
        (IsReportWanted setting.preferences.report findings → tree.Accepts request.output) := by
  have course := run_course setting times request tree
  generalize (run setting times request tree).tree = after at course
  constructor
  · rintro ⟨result, ended⟩
    rw [ended] at course
    cases course with
    | completed read examined report summary =>
      refine ⟨_, _, read, examined, fun wanted => ?_⟩
      rw [← report.isWritten_iff] at wanted
      rw [wanted] at report
      cases report with
      | written wanted written => exact (Tree.writeText_succeeds_iff _).mp ⟨_, written⟩
  · rintro ⟨source, findings, read, examined, accepts⟩
    cases ended : (run setting times request tree).result with
    | ok outcome =>
      rw [ended] at course
      cases course with
      | noCode empty => cases read.symm.trans empty
      | completed => exact ⟨_, rfl⟩
    | error error =>
      rw [ended] at course
      cases course with
      | unread stopped => cases read.symm.trans stopped
      | unexamined again stopped =>
        obtain rfl := Option.some.inj (Except.ok.inj (read.symm.trans again))
        cases examined.symm.trans stopped
      | unreported again found wanted refused =>
        obtain rfl := Option.some.inj (Except.ok.inj (read.symm.trans again))
        obtain rfl := Except.ok.inj (examined.symm.trans found)
        obtain ⟨after, written⟩ := (Tree.writeText_succeeds_iff _).mpr (accepts wanted)
        cases written.symm.trans refused

/-- An analysis that fails or finds no code leaves all files as they were; one that completes writes
the report and the summary that are wanted, and no other file. -/
theorem run_outputs (setting : Setting) (times : Times) (request : Request) (tree : Tree) :
    (∀ stop, (run setting times request tree).result = .error stop →
      (run setting times request tree).tree = tree) ∧
    ((run setting times request tree).result = .ok none →
      (run setting times request tree).tree = tree) ∧
    (∀ result, (run setting times request tree).result = .ok (some result) →
      Delivered setting times request tree result (run setting times request tree).tree) ∧
    ((∃ result, (run setting times request tree).result = .ok (some result)) ↔
      ∃ source findings, (readInput setting times tree request.input).result = .ok (some source) ∧
        (examine setting.scanSettings source.text).result = .ok findings ∧
        (IsReportWanted setting.preferences.report findings → tree.Accepts request.output)) ∧
    ∀ location, tree.target request.output ≠ .ok location →
      (∀ path, setting.preferences.report.summaryPath = some path →
        tree.target path ≠ .ok location) →
      (run setting times request tree).tree.node? location = tree.node? location := by
  have course := run_course setting times request tree
  have failed (stop : Stop Error)
      (ended : (run setting times request tree).result = .error stop) :
      (run setting times request tree).tree = tree := by
    rw [ended] at course
    generalize (run setting times request tree).tree = left at course
    cases course <;> rfl
  have empty (ended : (run setting times request tree).result = .ok none) :
      (run setting times request tree).tree = tree := by
    rw [ended] at course
    generalize (run setting times request tree).tree = left at course
    cases course
    rfl
  have completed (result : Result)
      (ended : (run setting times request tree).result = .ok (some result)) :
      Delivered setting times request tree result (run setting times request tree).tree := by
    rw [ended] at course
    exact delivered_of_course course
  refine ⟨failed, empty, completed, completes_iff, ?_⟩
  intro location noReport noSummary
  cases ended : (run setting times request tree).result with
  | error stop => rw [failed stop ended]
  | ok outcome =>
    cases outcome with
    | none => rw [empty ended]
    | some result =>
      have delivered := completed result ended
      exact delivered.elsewhere location (fun _ => noReport) fun path isThere =>
        noSummary path ((delivered.summaryPath path).mp isThere).1

end Delivered

section OneName

variable (level : Notice.Level)

theorem readInput_of_name {input : String} (resolved : tree.resolve input = .ok location)
    (held : tree.node? location = some (.file (String.ofList ['a']).toUTF8))
    (readable : tree.IsReadable location) :
    ∃ source : Input.Source, source.text = String.ofList ['a'] ∧
      (readInput { level := level } times tree input).result = .ok (some source) := by
  have plain : '\r' ∉ (String.ofList ['a']).toList := by
    rw [String.toList_ofList]
    decide
  have same : Input.prepared {} (String.ofList ['a']) = (String.ofList ['a'], 0) :=
    Text.uniformLineEndings_of_plain plain
  have short : Text.lineTotal (Input.prepared {} (String.ofList ['a'])).1 ≤ 100000 := by
    rw [same, Text.lineTotal_eq, String.toList_ofList]
    decide
  have read : (Input.read Limits.development.files {} tree times.reading input).result = .ok _ :=
    Input.read_of_course (.read resolved held readable (by decide) (by decide) short) _
  exact ⟨_, congrArg Prod.fst same, readInput_of_read read⟩

theorem examine_name : ∃ findings,
    (examine ({ level := level } : Setting).scanSettings (String.ofList ['a'])).result =
        .ok findings ∧
      findings.tokens = [⟨.identifier, "a", ⟨0, 1, 1⟩, ⟨1, 1, 2⟩⟩] := by
  have cut : Scan.pieces Category.all (String.ofList ['a']).toList =
      [.lexeme .identifier ['a']] := by
    rw [String.toList_ofList]
    decide +kernel
  have scanned := @Scan.scan_succeeds ({ level := level } : Setting).scanSettings _ _ cut
    (List.forall_mem_singleton.mpr fun _ => rfl) (show 1 ≤ 1000000 by decide)
    (show 1 ≤ 100000 by decide) (by decide)
  have tabulated : (Symbol.tabulate Limits.development.symbols {}
      (Scan.tokensOf .standard .start [.lexeme .identifier ['a']])).result =
        .ok ⟨[⟨"a", .identifier, ⟨0, 1, 1⟩, ⟨1, 1, 2⟩⟩]⟩ := by
    rw [Symbol.tabulate_ok_iff rfl]
    decide
  exact ⟨⟨_, _, _⟩, examine_eq_ok_iff.mpr ⟨scanned, rfl, tabulated⟩, rfl⟩

theorem run_of_name {request : Request} (resolved : tree.resolve request.input = .ok location)
    (held : tree.node? location = some (.file (String.ofList ['a']).toUTF8))
    (readable : tree.IsReadable location) (accepts : tree.Accepts request.output) :
    ∃ result, (run { level := level } times request tree).result = .ok (some result) ∧
      result.findings.tokens = [⟨.identifier, "a", ⟨0, 1, 1⟩, ⟨1, 1, 2⟩⟩] := by
  obtain ⟨source, text, read⟩ := readInput_of_name level resolved held readable
  obtain ⟨findings, examined, tokens⟩ := examine_name level
  rw [← text] at examined
  obtain ⟨result, completed⟩ := (@completes_iff { level := level } times request tree).mpr
    ⟨source, findings, read, examined, fun _ => accepts⟩
  refine ⟨result, completed, ?_⟩
  have course := run_course { level := level } times request tree
  rw [completed] at course
  generalize (run { level := level } times request tree).tree = after at course
  cases course with
  | completed again found =>
    obtain rfl := Option.some.inj (Except.ok.inj (read.symm.trans again))
    rw [← Except.ok.inj (examined.symm.trans found)]
    exact tokens

end OneName

def besideDevice : Tree where
  home := ["dev"]
  nodes := [(["in"], .file (String.ofList ['a']).toUTF8), (["dev"], .directory),
    (["dev", "null"], .device .empty [])]

/-- A report that is written into a device is not what is read from it afterwards. -/
theorem report_into_device : ∃ result,
    (run {} {} ⟨"/in", "null"⟩ besideDevice).result = .ok (some result) ∧
      result.isReportWritten = true ∧ result.summaryPath = none ∧
      (run {} {} ⟨"/in", "null"⟩ besideDevice).tree.node? ["dev", "null"] =
        some (.device .empty [result.report.toUTF8]) ∧
      (run {} {} ⟨"/in", "null"⟩ besideDevice).tree.readText "null" = .ok "" ∧
      result.report ≠ "" := by
  have resolved : besideDevice.resolve "/in" = .ok ["in"] := rfl
  have aimed : besideDevice.target "null" = .ok ["dev", "null"] := rfl
  have held : besideDevice.node? ["dev", "null"] = some (.device .empty []) := rfl
  have accepts : besideDevice.Accepts "null" := ⟨_, aimed, by simp [held], rfl⟩
  obtain ⟨result, completed, tokens⟩ := @run_of_name {} _ _ .debug ⟨"/in", "null"⟩ resolved rfl
    ⟨⟨rfl, rfl⟩, rfl⟩ accepts
  have course := run_course {} {} ⟨"/in", "null"⟩ besideDevice
  rw [completed] at course
  generalize (run {} {} ⟨"/in", "null"⟩ besideDevice).tree = after at course
  cases course with
  | completed read examined report summary =>
    obtain ⟨noSummary, rfl⟩ := summary.of_unwanted rfl
    have isWritten : result.isReportWritten = true := by
      refine report.isWritten_iff.mpr (.inl ?_)
      rw [tokens]
      exact List.cons_ne_nil _ _
    rw [isWritten] at report
    cases report with
    | written wanted written =>
      obtain ⟨place, again, -, -, left⟩ := Tree.writeText_eq_ok_iff.mp written
      obtain rfl := Except.ok.inj (aimed.symm.trans again)
      refine ⟨result, completed, isWritten, noSummary, left ▸ rfl, ?_, ?_⟩
      · rw [left]
        rfl
      · simp [Result.report, Report.render, Report.unlines]

end LexReport.Analysis
