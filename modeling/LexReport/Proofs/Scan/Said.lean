import LexReport.Proofs.Notice.Failure
import LexReport.Proofs.Scan.Limits

/-! What a scan says: a warning for each gap that it lists, and at last an error if it fails. -/

set_option autoImplicit false

namespace LexReport.Scan

open Notice

variable {settings : Settings} {progress : Progress} {error : Error}

section Warned

/-- What was said while a number of gaps was listed: no error, and a warning for each gap if such
warnings are wanted. -/
structure Warned (settings : Settings) (gaps : Nat) (events : List Event) : Prop where
  quiet : Quiet events
  count : events.countP Event.isProblem = if settings.lexical.warnOnUnmatched then gaps else 0

theorem warned_nil (settings : Settings) : Warned settings 0 [] := ⟨quiet_nil, by simp⟩

theorem Warned.append {gaps more : Nat} {events others : List Event}
    (first : Warned settings gaps events) (rest : Warned settings more others) :
    Warned settings (gaps + more) (events ++ others) := by
  refine ⟨quiet_append.mpr ⟨first.quiet, rest.quiet⟩, ?_⟩
  rw [List.countP_append, first.count, rest.count]
  split <;> rfl

theorem warned_singleton {event : Event} (level : event.level = .info ∨ event.level = .debug) :
    Warned settings 0 [event] := by
  have noError : event.level ≠ .error := by
    rcases level with level | level <;> rw [level] <;> decide
  have noProblem : ¬ event.isProblem = true := by
    rcases level with level | level <;> rw [Event.isProblem, level] <;> decide
  refine ⟨quiet_singleton.mpr noError, ?_⟩
  rw [List.countP_cons_of_neg noProblem, List.countP_nil, ite_self]

theorem warned_gap (settings : Settings) (lines : Source.Lines) (gap : Gap) :
    Warned settings 1 (tellGap settings lines gap).2 := by
  unfold tellGap
  split
  · rename_i unwanted
    exact ⟨quiet_nil, by rw [if_neg (by simpa using unwanted)]; rfl⟩
  · rename_i wanted
    have warning : Warned settings 1 [gapWarning gap] :=
      ⟨quiet_singleton.mpr nofun, by rw [if_pos (by simpa using wanted)]; rfl⟩
    split
    · exact warning
    · split
      · exact warning.append (warned_singleton (.inr rfl))
      · exact warning

theorem register_warned {identifiers others : Symbol.Identifiers} {name : String} {line : UInt32}
    {told : List Event}
    (registration : register settings identifiers name line = (.ok told, others)) :
    Warned settings 0 told := by
  unfold register at registration
  split at registration
  · cases registration
  · obtain ⟨same, -⟩ := Prod.mk.inj registration
    obtain rfl := Except.ok.inj same
    split
    · exact warned_singleton (.inr rfl)
    · exact warned_nil settings

end Warned

section Pieces

def Progress.IsWarned (settings : Settings) (progress : Progress) : Prop :=
  Warned settings progress.gathered.gaps.size progress.events.toList

inductive Ended (settings : Settings) : Option (Stop Error) × Progress → Prop where
  | goesOn {after : Progress} (warned : after.IsWarned settings) : Ended settings (none, after)
  | fails {error : Error} {after : Progress} {events : List Event}
      (warned : Warned settings after.gathered.gaps.size events)
      (said : after.events.toList = events ++ [errorEvent settings error]) :
      Ended settings (some (.failed error), after)
  | panics {after : Progress} (warned : after.IsWarned settings) :
      Ended settings (some .panicked, after)

def LexemeEnded (settings : Settings) (ended : Option Error × Progress) : Prop :=
  Ended settings (ended.1.map .failed, ended.2)

theorem ended_push {after : Progress} {events : Array Event}
    (warned : Warned settings after.gathered.gaps.size events.toList)
    (said : after.events = events.push (errorEvent settings error)) :
    LexemeEnded settings (some error, after) :=
  .fails warned (by rw [said, Array.toList_push])

theorem skip_warned (warned : progress.IsWarned settings) (lines : Source.Lines)
    (text : List Char) : (progress.skip settings lines text).2.IsWarned settings := by
  obtain ⟨place, tokens, ⟨identifiers, metrics, gaps⟩, events⟩ := progress
  rw [Progress.skip]
  split
  · rw [Progress.IsWarned]
    dsimp only
    rw [Array.size_push, Array.toList_append]
    exact warned.append (warned_gap settings lines _)
  · exact warned

theorem take_ended (warned : progress.IsWarned settings) (category : Category) (lexeme : String)
    (span : Source.Span) : LexemeEnded settings (progress.take settings category lexeme span) := by
  obtain ⟨place, tokens, ⟨identifiers, metrics, gaps⟩, events⟩ := progress
  unfold Progress.take
  dsimp only
  split
  · exact .goesOn warned
  · split
    · exact ended_push warned rfl
    · exact .goesOn warned

theorem read_ended (warned : progress.IsWarned settings) (category : Category)
    (text : List Char) : LexemeEnded settings (progress.read settings category text) := by
  cases read_course settings progress category text with
  | long measured stopped =>
    rw [stopped]
    exact ended_push warned rfl
  | other fits notPlain taken =>
    rw [← taken]
    exact take_ended warned _ _ _
  | refused fits plain refusal stopped =>
    rw [stopped]
    exact ended_push warned rfl
  | @registered name told identifiers fits plain registration taken =>
    rw [← taken]
    apply take_ended
    rw [Progress.IsWarned, Array.toList_append]
    exact warned.append (register_warned registration)

theorem advance_ended (warned : progress.IsWarned settings) (lines : Source.Lines)
    (piece : Piece) : Ended settings (progress.advance settings lines piece) := by
  cases piece with
  | gap text =>
    have after := skip_warned warned lines text
    rw [Progress.advance]
    rcases stepped : progress.skip settings lines text with ⟨- | stop, next⟩ <;>
      rw [stepped] at after
    · exact .goesOn after
    · have stops :=
        (skip_stops_iff settings lines progress text stop).mp (congrArg Prod.fst stepped)
      rw [stops.1]
      exact .panics after
  | lexeme category text =>
    rw [advance_lexeme]
    exact read_ended warned category text

theorem readPieces_ended (warned : progress.IsWarned settings) (lines : Source.Lines)
    (pieces : List Piece) : Ended settings (readPieces settings lines progress pieces) := by
  induction pieces generalizing progress with
  | nil => exact .goesOn warned
  | cons piece rest ih =>
    have ended : Ended settings (progress.advance settings lines piece) :=
      advance_ended warned lines piece
    rw [readPieces]
    generalize progress.advance settings lines piece = stepped at ended
    cases ended with
    | goesOn warned => exact ih warned
    | fails warned said => exact .fails warned said
    | panics warned => exact .panics warned

end Pieces

section Scan

variable {text : String}

theorem readPieces_text_ended (settings : Settings) (text : String) :
    Ended settings (readPieces settings (.ofText text.toList) {}
      (pieces settings.grammar.rules text.toList)) := by
  have nothing : Progress.IsWarned settings {} := warned_nil settings
  exact readPieces_ended nothing _ _

theorem scan_said (settings : Settings) (text : String) :
    match (scan settings text).tokens with
    | .error (.failed error) =>
      ∃ events, Warned settings (scan settings text).gathered.gaps.size events ∧
        (scan settings text).events = events ++ [errorEvent settings error]
    | .error .panicked | .ok _ =>
      Warned settings (scan settings text).gathered.gaps.size (scan settings text).events := by
  have ended := readPieces_text_ended settings text
  unfold scan
  dsimp only
  generalize readPieces settings (.ofText text.toList) {}
    (pieces settings.grammar.rules text.toList) = last at ended ⊢
  cases ended with
  | goesOn warned =>
    dsimp only
    rw [Array.toList_push]
    exact warned.append (warned_singleton (.inl rfl))
  | fails warned said => exact ⟨_, warned, said⟩
  | panics warned => exact warned

theorem scan_warned {tokens : List Token} (ok : (scan settings text).tokens = .ok tokens) :
    Warned settings (scan settings text).gathered.gaps.size (scan settings text).events := by
  have said := scan_said settings text
  rwa [ok] at said

theorem scan_fails (failed : (scan settings text).tokens = .error (.failed error)) :
    ∃ events, Warned settings (scan settings text).gathered.gaps.size events ∧
      (scan settings text).events = events ++ [errorEvent settings error] := by
  have said := scan_said settings text
  rwa [failed] at said

theorem scan_panics (panicked : (scan settings text).tokens = .error .panicked) :
    Warned settings (scan settings text).gathered.gaps.size (scan settings text).events := by
  have said := scan_said settings text
  rwa [panicked] at said

theorem errorEvent_level (settings : Settings) (error : Error) :
    (errorEvent settings error).level = .error := by
  unfold errorEvent
  dsimp only
  split
  · split <;> rfl
  · rfl

theorem errorEvent_code (settings : Settings) (error : Error) :
    (errorEvent settings error).code = error.code := by
  unfold errorEvent
  dsimp only
  split
  · split <;> rfl
  · rfl

end Scan

end LexReport.Scan
