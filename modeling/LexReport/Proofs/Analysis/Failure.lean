import LexReport.Analysis.Run
import LexReport.Proofs.Files.Work
import LexReport.Proofs.Scan.Said
import LexReport.Proofs.Symbol.Table

/-! What is told of an analysis that fails: one error, at the end. -/

set_option autoImplicit false

namespace LexReport

open Notice

section Reading

namespace Input

variable {limits : FileLimits} {preferences : FilePreferences} {tree : Files.Tree} {path : String}

theorem isTelling_locate : (locate tree path).IsTelling (some ∘ Error.code) := by
  unfold locate
  split
  · exact Stage.isTelling_fail rfl rfl
  · split
    · exact Stage.isTelling_fail rfl rfl
    · split
      · exact Stage.isTelling_bind (Stage.isTelling_announce nofun) fun _ _ =>
          Stage.isTelling_pure _
      · exact Stage.isTelling_fail rfl rfl
      · exact Stage.isTelling_fail rfl rfl

theorem isTelling_describe (location : Files.Location) :
    (describe limits tree location).IsTelling (some ∘ Error.code) := by
  unfold describe
  split
  · exact Stage.isTelling_bind (Stage.isTelling_announce nofun) fun _ _ => Stage.isTelling_pure _
  · exact Stage.isTelling_fail rfl rfl

theorem isTelling_checkSize (size : Nat) :
    (checkSize limits preferences path size).IsTelling (some ∘ Error.code) := by
  unfold checkSize
  split
  · exact Stage.isTelling_fail rfl rfl
  · split
    · exact Stage.isTelling_announce nofun
    · exact Stage.isTelling_pure _

theorem isTelling_decode (location : Files.Location) :
    (decode tree path location).IsTelling (some ∘ Error.code) := by
  unfold decode
  split
  · exact Stage.isTelling_bind (Stage.isTelling_announce nofun) fun _ _ => Stage.isTelling_pure _
  · exact Stage.isTelling_fail rfl rfl

theorem isTelling_countLines (text : String) :
    (countLines limits path text).IsTelling (some ∘ Error.code) := by
  unfold countLines
  split
  · exact Stage.isTelling_fail rfl rfl
  · dsimp only
    split
    · exact Stage.isTelling_fail rfl rfl
    · exact Stage.isTelling_pure _

theorem readEvent_level (elapsed : Nat) (source : Source) :
    (readEvent preferences path elapsed source).level ≠ .error := by
  unfold readEvent
  split <;> nofun

/-- Whatever it is that reading fails for, it tells the error. -/
theorem isTelling_read (elapsed : Nat) :
    (read limits preferences tree elapsed path).IsTelling (some ∘ Error.code) := by
  unfold Input.read
  refine Stage.isTelling_bind (Stage.isTelling_announce nofun) fun _ _ => ?_
  refine Stage.isTelling_bind isTelling_locate fun _ _ => ?_
  refine Stage.isTelling_bind (isTelling_describe _) fun _ _ => ?_
  refine Stage.isTelling_bind (isTelling_checkSize _) fun _ _ => ?_
  refine Stage.isTelling_bind (isTelling_decode _) fun _ _ => ?_
  refine Stage.isTelling_bind (isTelling_countLines _) fun _ _ => ?_
  exact Stage.isTelling_bind (Stage.isTelling_announce (readEvent_level _ _)) fun _ _ =>
    Stage.isTelling_pure _

end Input

end Reading

section Tabulating

namespace Symbol

variable {limits : SymbolLimits} {preferences : SymbolPreferences} {draft : Draft}

theorem Draft.quiet_offer (name : String) (kind : Class) (span : Source.Span) :
    Quiet (offer limits preferences draft name kind span).events := by
  obtain ⟨entries, keys, isTruncated⟩ := draft
  unfold offer
  dsimp only
  split
  · exact quiet_nil
  · split
    · split
      · exact quiet_nil
      · cases isTruncated with
        | true => exact quiet_nil
        | false => exact quiet_singleton.mpr nofun
    · exact quiet_nil

theorem Draft.quiet_fill {events : List Event} (quiet : Quiet events) (tokens : List Token) :
    Quiet (fill limits preferences draft events tokens).events := by
  induction tokens generalizing draft events with
  | nil => exact quiet
  | cons token rest ih =>
    cases asked : Entry.ofToken? token with
    | none =>
      rw [fill_cons_of_none asked]
      exact ih quiet
    | some entry =>
      have more : Quiet (offerEntry limits preferences draft entry).events := quiet_offer _ _ _
      rw [fill_cons_of_some asked]
      generalize offerEntry limits preferences draft entry = offer at more
      obtain ⟨outcome, draft, others⟩ := offer
      have both : Quiet (events ++ others) := quiet_append.mpr ⟨quiet, more⟩
      cases outcome with
      | error error => exact both
      | ok isNew => exact ih both

theorem isTelling_tabulate (tokens : List Token) :
    (tabulate limits preferences tokens).IsTelling (some ∘ Error.code) := by
  unfold tabulate
  refine Stage.isTelling_bind (Stage.isTelling_announce nofun) fun _ _ => ?_
  refine Stage.isTelling_bind (Stage.isTelling_forM (Draft.quiet_fill quiet_nil tokens))
    fun _ _ => ?_
  split
  · exact Stage.isTelling_fail rfl rfl
  · exact Stage.isTelling_bind (Stage.isTelling_announce nofun) fun _ _ => Stage.isTelling_pure _

end Symbol

end Tabulating

namespace Analysis

open Files

section Examining

theorem isTelling_scanStage (settings : Scan.Settings) (text : String) :
    (scanStage settings text).IsTelling (Stop.code? Scan.Error.code) := by
  unfold Stage.IsTelling scanStage
  dsimp only
  cases ended : (Scan.scan settings text).tokens with
  | ok tokens => exact .quiet (Scan.scan_warned ended).quiet
  | error stop =>
    cases stop with
    | panicked => exact .ends (Scan.scan_panics ended).quiet
    | failed error =>
      obtain ⟨events, warned, said⟩ := Scan.scan_fails ended
      exact .ends ⟨events, _, said, warned.quiet, Scan.errorEvent_level _ _,
        Scan.errorEvent_code _ _⟩

theorem isTelling_examine (settings : Scan.Settings) (text : String) :
    (examine settings text).IsTelling (Stop.code? Error.code) := by
  have scanned : ((scanStage settings text).mapError (Stop.map Error.scan)).IsTelling
      (Stop.code? Error.code) :=
    Stage.isTelling_mapError (fun stop => by cases stop <;> rfl) (isTelling_scanStage settings text)
  unfold examine
  refine Stage.isTelling_bind scanned fun _ _ => ?_
  exact Stage.isTelling_bind (Stage.isTelling_mapError (fun _ => rfl)
    (Symbol.isTelling_tabulate _)) fun _ _ => Stage.isTelling_pure _

end Examining

variable {setting : Setting} {times : Times} {request : Request} {tree : Tree} {error : Error}

section Failing

theorem isTelling_readInput (setting : Setting) (times : Times) (tree : Tree) (input : String) :
    (readInput setting times tree input).result = .ok none ∨
      (readInput setting times tree input).IsTelling (some ∘ Error.code) := by
  have tells : (Input.read setting.limits.files setting.preferences.files tree times.reading
      input).IsTelling (some ∘ Input.Error.code) := Input.isTelling_read times.reading
  unfold readInput
  unfold Stage.IsTelling at tells ⊢
  generalize Input.read setting.limits.files setting.preferences.files tree times.reading input =
    reading at tells ⊢
  obtain ⟨events, result⟩ := reading
  cases tells with
  | quiet quiet => exact .inr (.quiet quiet)
  | @ends error ends =>
    dsimp only
    split
    · contradiction
    · exact .inl rfl
    · rename_i other notEmpty same
      obtain rfl := Except.error.inj same
      exact .inr (.ends ends)

theorem quiet_readInput {input : String} {source : Input.Source}
    (read : (readInput setting times tree input).result = .ok (some source)) :
    Quiet (readInput setting times tree input).events := by
  rcases isTelling_readInput setting times tree input with empty | tells
  · cases read.symm.trans empty
  · exact tells.quiet_of_ok read

theorem readInput_fails {input : String}
    (failed : (readInput setting times tree input).result = .error error) :
    Fails error.code (readInput setting times tree input).events := by
  rcases isTelling_readInput setting times tree input with empty | tells
  · cases failed.symm.trans empty
  · exact tells.ends_of_error failed

theorem deliver_fails {path text : String} {failure : Report.Error}
    (failed : (Report.deliver path text tree).result = .error failure) :
    Fails failure.code (Report.deliver path text tree).events := by
  unfold Report.deliver at failed ⊢
  cases written : tree.writeText path text with
  | ok after =>
    rw [written] at failed
    contradiction
  | error refusal =>
    rw [written] at failed
    obtain rfl := Except.error.inj failed
    exact ⟨[], _, rfl, quiet_nil, rfl, rfl⟩

theorem writeReport_fails {preferences : ReportPreferences} {output text : String}
    {findings : Findings}
    (failed : (writeReport preferences output text findings tree).result = .error error) :
    Fails error.code (writeReport preferences output text findings tree).events := by
  unfold writeReport at failed ⊢
  split at failed
  · rename_i wanted
    rw [if_pos wanted]
    dsimp only at failed ⊢
    obtain ⟨failed, told⟩ | ⟨_, -, failed, -⟩ := Work.fails_of_bind failed
    · rw [told]
      obtain ⟨failure, undelivered, rfl⟩ := Work.fails_of_mapError failed
      exact deliver_fails undelivered
    · contradiction
  · obtain ⟨failed, -⟩ | ⟨_, -, failed, -⟩ := Work.fails_of_bind failed <;> contradiction

theorem writeSummary_ok (setting : Setting) (times : Times) (request : Request)
    (findings : Findings) (tree : Tree) (error : Error) :
    (writeSummary setting times request findings tree).result ≠ .error error := by
  unfold writeSummary
  cases setting.preferences.report.summaryPath with
  | none => nofun
  | some path =>
    intro failed
    obtain ⟨failed, -⟩ | ⟨_, -, failed, -⟩ := Work.fails_of_bind failed <;> contradiction

theorem report_fails {source : Input.Source} {findings : Findings}
    (failed : (report setting times request source findings tree).result = .error error) :
    Fails error.code (report setting times request source findings tree).events := by
  unfold report at failed ⊢
  obtain ⟨failed, told⟩ | ⟨_, -, failed, -⟩ := Work.fails_of_bind failed
  · rw [told]
    exact writeReport_fails failed
  obtain ⟨failed, -⟩ | ⟨_, -, failed, -⟩ := Work.fails_of_bind failed
  · exact absurd failed (writeSummary_ok _ _ _ _ _ _)
  obtain ⟨failed, -⟩ | ⟨_, -, failed, -⟩ := Work.fails_of_bind failed <;> contradiction

/-- An analysis that fails tells its error, at last and once. One that breaks off tells none. -/
theorem run_ends {stop : Stop Error}
    (ended : (run setting times request tree).result = .error stop) :
    Ends (stop.code? Error.code) (run setting times request tree).events := by
  have quiet {event : Event} (level : event.level ≠ .error) : Quiet [event] :=
    quiet_singleton.mpr level
  -- Step by step: each one but the last has told no error, and the last has failed.
  unfold run at ended ⊢
  obtain ⟨ended, -⟩ | ⟨_, -, ended, begun⟩ := Work.fails_of_bind ended
  · contradiction
  rw [begun]
  refine .behind (quiet nofun) ?_
  obtain ⟨ended, told⟩ | ⟨found, read, ended, told⟩ := Work.fails_of_bind ended <;> rw [told]
  · obtain ⟨error, failed, rfl⟩ := Work.fails_of_mapError ended
    exact readInput_fails failed
  have read := Work.ok_of_mapError read
  cases found with
  | none => contradiction
  | some source =>
    refine .behind (quiet_readInput read) ?_
    obtain ⟨ended, -⟩ | ⟨_, -, ended, begun⟩ := Work.fails_of_bind ended
    · contradiction
    rw [begun]
    refine .behind (quiet nofun) ?_
    have tells := isTelling_examine setting.scanSettings source.text
    obtain ⟨ended, told⟩ | ⟨findings, examined, ended, told⟩ := Work.fails_of_bind ended <;>
      rw [told]
    · exact tells.ends_of_error ended
    refine .behind (tells.quiet_of_ok examined) ?_
    obtain ⟨ended, told⟩ | ⟨_, -, ended, -⟩ := Work.fails_of_bind ended
    · rw [told]
      obtain ⟨error, failed, rfl⟩ := Work.fails_of_mapError ended
      exact report_fails failed
    · contradiction

theorem run_fails (failed : (run setting times request tree).result = .error (.failed error)) :
    Fails error.code (run setting times request tree).events :=
  run_ends failed

end Failing

section Unread

/-- An analysis of an input that is not there tells nothing else that is wrong. -/
theorem run_of_unresolved {failure : Failure} (named : request.input ≠ "")
    (unresolved : tree.resolve request.input = .error failure) :
    (run setting times request tree).result =
        .error (.failed (.input (.fileNotFound request.input))) ∧
      (run setting times request tree).events.countP Event.isProblem = 1 := by
  have located : Input.locate tree request.input =
      .fail (.fileNotFound request.input)
        ((Event.error .fileNotFound "File not found").detail "path" request.input) := by
    rw [Input.locate, if_neg named, unresolved]
  have stopped : (Input.locate tree request.input).result =
      .error (.fileNotFound request.input) := by
    rw [located]
    rfl
  have read : (Input.read setting.limits.files setting.preferences.files tree times.reading
      request.input).result = .error (.fileNotFound request.input) := by
    rw [Input.read, Stage.bind_of_ok _ rfl, Stage.bind_of_error _ stopped]
  have input : (readInput setting times tree request.input).result =
      .error (.input (.fileNotFound request.input)) := by
    rw [readInput, read]
  rw [run, Work.bind_of_ok _ (Work.announce_eq _ tree),
    Work.bind_of_error _ (Work.mapError_of_error (Work.look_eq input) _), readInput, read]
  dsimp only
  rw [Input.read, Stage.bind_of_ok _ rfl, Stage.bind_of_error _ stopped, located]
  exact ⟨rfl, rfl⟩

end Unread

section Unscanned

variable {source : Input.Source} {stop : Stop Error}

theorem examine_of_stopped {settings : Scan.Settings} {text : String} {stop : Stop Scan.Error}
    (stopped : (Scan.scan settings text).tokens = .error stop) :
    examine settings text = ⟨(Scan.scan settings text).events, .error (stop.map .scan)⟩ := by
  have ended : ((scanStage settings text).mapError (Stop.map Error.scan)).result =
      .error (stop.map .scan) := by
    show ((Scan.scan settings text).tokens.map _).mapError (Stop.map Error.scan) = _
    rw [stopped]
    rfl
  unfold examine
  rw [Stage.bind_of_error _ ended]
  rfl

theorem run_of_unexamined
    (read : (readInput setting times tree request.input).result = .ok (some source))
    (stopped : (examine setting.scanSettings source.text).result = .error stop) :
    ∃ before, Quiet before ∧ run setting times request tree =
      ⟨before ++ (examine setting.scanSettings source.text).events, .error stop, tree⟩ := by
  unfold run
  rw [Work.bind_of_ok _ (Work.announce_eq _ tree),
    Work.bind_of_ok _ (Work.mapError_of_ok (Work.look_eq read) _)]
  dsimp only
  rw [Work.bind_of_ok _ (Work.announce_eq _ tree),
    Work.bind_of_error _ (Work.ofStage_eq stopped tree), ← List.append_assoc, ← List.append_assoc]
  refine ⟨_, ?_, rfl⟩
  refine quiet_append.mpr ⟨quiet_append.mpr ⟨quiet_singleton.mpr nofun, quiet_readInput read⟩, ?_⟩
  exact quiet_singleton.mpr nofun

/-- An analysis that fails in the scan warns of each gap that is listed before it tells the
error. -/
theorem warnings_of_unscanned {scanError : Scan.Error}
    (wanted : setting.preferences.lexical.warnOnUnmatched = true)
    (read : (readInput setting times tree request.input).result = .ok (some source))
    (failed : (Scan.scan setting.scanSettings source.text).tokens = .error (.failed scanError)) :
    (run setting times request tree).result = .error (.failed (.scan scanError)) ∧
      ∃ before told, (run setting times request tree).events = before ++ [told] ∧ Quiet before ∧
        told.level = .error ∧
        (Scan.scan setting.scanSettings source.text).gathered.gaps.size ≤
          before.countP Event.isProblem := by
  have examined := examine_of_stopped failed
  have stopped : (examine setting.scanSettings source.text).result =
      .error (.failed (.scan scanError)) := by
    rw [examined]
    rfl
  obtain ⟨earlier, quiet, ended⟩ := run_of_unexamined read stopped
  obtain ⟨events, warned, said⟩ := Scan.scan_fails failed
  rw [ended, examined, said]
  refine ⟨rfl, earlier ++ events, _, (List.append_assoc _ _ _).symm,
    quiet_append.mpr ⟨quiet, warned.quiet⟩, Scan.errorEvent_level _ _, ?_⟩
  have count := warned.count
  rw [if_pos (show setting.scanSettings.lexical.warnOnUnmatched = true from wanted)] at count
  rw [List.countP_append, count]
  exact Nat.le_add_left _ _

end Unscanned

end Analysis

end LexReport
