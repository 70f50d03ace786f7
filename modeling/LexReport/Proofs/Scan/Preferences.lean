import LexReport.Proofs.Scan.Alike
import LexReport.Proofs.Scan.Outcome
import LexReport.Proofs.Scan.Said

/-! Preferences decide what a scan says and which details it counts. They change nothing else, but
that a scan can break off only where it is to warn of gaps. -/

set_option autoImplicit false

namespace LexReport.Scan

open Notice

section Details

/-- Metrics without what is counted only if preferences ask for it. -/
def Metrics.withoutDetails (metrics : Metrics) : Metrics :=
  { metrics with byCategory := [], byOperator := [] }

theorem withoutDetails_addMatch (preferences : LexicalPreferences) (metrics : Metrics)
    (category : Category) (lexeme : String) :
    (metrics.addMatch preferences category lexeme).withoutDetails =
      metrics.withoutDetails.addMatch
        { preferences with collectDetails := false, trackOperators := false } category lexeme := by
  rw [addMatch_eq, addMatch_eq]
  rfl

theorem readsAlike_withoutDetails (settings : Settings) (lexical : LexicalPreferences)
    (symbols : SymbolPreferences) :
    ReadsAlike Metrics.withoutDetails settings
      { settings with lexical := lexical, symbols := symbols } where
  limits := rfl
  grammar := rfl
  matched first second category lexeme same := by
    rw [withoutDetails_addMatch, withoutDetails_addMatch, same, addMatch_eq, addMatch_eq]
  skipped first second text same :=
    congrArg (fun metrics => (metrics.addGap text).withoutDetails) same

end Details

section Warnings

variable {settings : Settings} {progress : Progress}

/-- The warnings of unmatched input among what was said: how grave each is, and where. -/
def gapWarnings (events : List Event) : List (Level × Option Source.Span) :=
  (events.filter (·.code = .unmatchedInput)).map fun event => (event.level, event.span)

theorem gapWarnings_append (events others : List Event) :
    gapWarnings (events ++ others) = gapWarnings events ++ gapWarnings others := by
  rw [gapWarnings, List.filter_append, List.map_append]
  rfl

theorem gapWarnings_singleton {event : Event} (other : event.code ≠ .unmatchedInput) :
    gapWarnings [event] = [] := by
  rw [gapWarnings, List.filter_cons_of_neg (by simpa using other)]
  rfl

theorem gapWarnings_tellGap (settings : Settings) (lines : Source.Lines) (gap : Gap) :
    gapWarnings (tellGap settings lines gap).2 =
      if settings.lexical.warnOnUnmatched then [(.warning, some gap.span)] else [] := by
  unfold tellGap
  cases settings.lexical.warnOnUnmatched
  · rfl
  · cases Level.debug.isWithin settings.level
    · rfl
    · cases lines.snippet? gap.span "unmatched input" <;> rfl

theorem gapWarnings_error (settings : Settings) (error : Error) :
    gapWarnings [errorEvent settings error] = [] := by
  apply gapWarnings_singleton
  rw [errorEvent_code]
  rcases error with _ | _ | _ | _ | _ | ⟨_ | _⟩ <;> exact ne_of_beq_false rfl

def warningsOf (preferences : LexicalPreferences) (gaps : List Gap) :
    List (Level × Option Source.Span) :=
  if preferences.warnOnUnmatched then gaps.map fun gap => (.warning, some gap.span) else []

theorem warningsOf_append_singleton (preferences : LexicalPreferences) (gaps : List Gap)
    (gap : Gap) :
    warningsOf preferences (gaps ++ [gap]) = warningsOf preferences gaps ++
      if preferences.warnOnUnmatched then [(.warning, some gap.span)] else [] := by
  unfold warningsOf
  split
  · exact List.map_append
  · rfl

def Progress.WarnsOfGaps (settings : Settings) (progress : Progress) : Prop :=
  gapWarnings progress.events.toList =
    warningsOf settings.lexical progress.gathered.gaps.toList

theorem skip_warnsOfGaps (warns : progress.WarnsOfGaps settings) (lines : Source.Lines)
    (text : List Char) : (progress.skip settings lines text).2.WarnsOfGaps settings := by
  obtain ⟨place, tokens, ⟨identifiers, metrics, gaps⟩, events⟩ := progress
  unfold Progress.skip
  dsimp only
  split
  · rw [Progress.WarnsOfGaps] at warns ⊢
    dsimp only at warns ⊢
    rw [Array.toList_append, gapWarnings_append, warns, Array.toList_push,
      warningsOf_append_singleton, gapWarnings_tellGap]
  · exact warns

/-- Where no gap is listed, the warnings stay the same if nothing is said of unmatched input. -/
theorem Progress.WarnsOfGaps.say (warns : progress.WarnsOfGaps settings) {after : Progress}
    {told : List Event} (other : gapWarnings told = [])
    (gaps : after.gathered.gaps = progress.gathered.gaps)
    (said : after.events.toList = progress.events.toList ++ told) :
    after.WarnsOfGaps settings := by
  rw [WarnsOfGaps, said, gapWarnings_append, other, List.append_nil, gaps]
  exact warns

theorem take_warnsOfGaps (warns : progress.WarnsOfGaps settings) (category : Category)
    (lexeme : String) (span : Source.Span) :
    (progress.take settings category lexeme span).2.WarnsOfGaps settings := by
  obtain ⟨place, tokens, ⟨identifiers, metrics, gaps⟩, events⟩ := progress
  unfold Progress.take
  dsimp only
  split
  · exact warns
  · split
    · exact warns.say (gapWarnings_error settings _) rfl Array.toList_push
    · exact warns

theorem gapWarnings_register {identifiers others : Symbol.Identifiers} {name : String}
    {line : UInt32} {told : List Event}
    (registration : register settings identifiers name line = (.ok told, others)) :
    gapWarnings told = [] := by
  unfold register at registration
  split at registration
  · cases registration
  · obtain ⟨same, -⟩ := Prod.mk.inj registration
    obtain rfl := Except.ok.inj same
    split
    · exact gapWarnings_singleton (ne_of_beq_false rfl)
    · rfl

theorem read_warnsOfGaps (warns : progress.WarnsOfGaps settings) (category : Category)
    (text : List Char) : (progress.read settings category text).2.WarnsOfGaps settings := by
  cases read_course settings progress category text with
  | @long error measured stopped =>
    rw [stopped]
    exact warns.say (gapWarnings_error settings error) rfl Array.toList_push
  | other fits notPlain taken =>
    rw [← taken]
    exact take_warnsOfGaps warns _ _ _
  | @refused name error identifiers fits plain refusal stopped =>
    rw [stopped]
    exact warns.say (gapWarnings_error settings error) rfl Array.toList_push
  | registered fits plain registration taken =>
    rw [← taken]
    apply take_warnsOfGaps
    exact warns.say (gapWarnings_register registration) rfl Array.toList_append

theorem advance_warnsOfGaps (lines : Source.Lines) (progress : Progress) (piece : Piece)
    (warns : progress.WarnsOfGaps settings) :
    (progress.advance settings lines piece).2.WarnsOfGaps settings := by
  cases piece with
  | gap text => exact skip_warnsOfGaps warns lines text
  | lexeme category text =>
    rw [advance_lexeme]
    exact read_warnsOfGaps warns category text

/-- However a scan ends, it has warned of the gaps that it lists, in their order, if such warnings
are wanted. -/
theorem gapWarnings_of_scan (settings : Settings) (text : String) :
    gapWarnings (scan settings text).events =
      warningsOf settings.lexical (scan settings text).gathered.gaps.toList := by
  have nothing : Progress.WarnsOfGaps settings {} := by
    rw [Progress.WarnsOfGaps, warningsOf]
    split <;> rfl
  have warns : (readPieces settings (.ofText text.toList) {}
      (pieces settings.grammar.rules text.toList)).2.WarnsOfGaps settings :=
    readPieces_keeps (advance_warnsOfGaps _) nothing _
  unfold scan
  dsimp only
  split <;> rename_i ended <;> rw [ended] at warns
  · exact warns
  · rw [Array.toList_push, gapWarnings_append, gapWarnings_singleton (ne_of_beq_false rfl),
      List.append_nil]
    exact warns

end Warnings

section Observed

variable {settings : Settings}

/-- Two scans that differ at most in what they said and in the details they counted. -/
structure Observed (first second : Scanned) : Prop where
  tokens : first.tokens = second.tokens
  identifiers : first.gathered.identifiers = second.gathered.identifiers
  gaps : first.gathered.gaps = second.gathered.gaps
  metrics : first.gathered.metrics.withoutDetails = second.gathered.metrics.withoutDetails

theorem observed_of_alike {others : Settings} {text : String}
    (ended : EndAlikeIn Metrics.withoutDetails
      (readPieces settings (.ofText text.toList) {} (pieces settings.grammar.rules text.toList))
      (readPieces others (.ofText text.toList) {} (pieces others.grammar.rules text.toList))) :
    Observed (scan settings text) (scan others text) := by
  constructor
  · rw [tokens_of_scan, tokens_of_scan]
    generalize readPieces settings (.ofText text.toList) {}
      (pieces settings.grammar.rules text.toList) = first at ended ⊢
    generalize readPieces others (.ofText text.toList) {}
      (pieces others.grammar.rules text.toList) = second at ended ⊢
    obtain ⟨outcome, after⟩ := first
    obtain ⟨otherOutcome, otherAfter⟩ := second
    obtain ⟨rfl, left⟩ := ended
    cases outcome with
    | some stop => rfl
    | none => exact congrArg (fun tokens => Except.ok tokens.toList) left.tokens
  · rw [gathered_of_scan, gathered_of_scan]
    exact ended.left.identifiers
  · rw [gathered_of_scan, gathered_of_scan]
    exact ended.left.gaps
  · rw [gathered_of_scan, gathered_of_scan]
    exact ended.left.metrics

variable (settings : Settings) (lexical : LexicalPreferences) (symbols : SymbolPreferences)
  (text : String)

theorem start_alike : AlikeIn Metrics.withoutDetails ({} : Progress) {} :=
  ⟨rfl, rfl, rfl, rfl, rfl⟩

variable {lexical} in
/-- If gaps are warned of alike, the same of them can be shown. -/
theorem observed_of_same_warnings
    (same : settings.lexical.warnOnUnmatched = lexical.warnOnUnmatched) :
    Observed (scan settings text)
      (scan { settings with lexical := lexical, symbols := symbols } text) :=
  observed_of_alike <| readPieces_alike (readsAlike_withoutDetails settings lexical symbols)
    start_alike (sound_start settings) fun _ _ =>
      ⟨fun undrawn => ⟨same ▸ undrawn.wanted, undrawn.told, undrawn.fails⟩,
        fun undrawn => ⟨same ▸ undrawn.wanted, undrawn.told, undrawn.fails⟩⟩

theorem warns_of_panicked {settings : Settings} {text : String}
    (panicked : (scan settings text).tokens = .error .panicked) :
    settings.lexical.warnOnUnmatched = true := by
  obtain ⟨_, _, _, -, -, breaksOff⟩ := (scan_panics_iff settings text).mp panicked
  exact breaksOff.undrawn.wanted

theorem observed_iff :
    Observed (scan settings text)
        (scan { settings with lexical := lexical, symbols := symbols } text) ↔
      ((scan settings text).tokens = .error .panicked ↔
        (scan { settings with lexical := lexical, symbols := symbols } text).tokens =
          .error .panicked) := by
  refine ⟨fun observed => by rw [observed.tokens], fun agree => ?_⟩
  by_cases panicked : (scan settings text).tokens = .error .panicked
  · have wanted := warns_of_panicked panicked
    have otherWanted : lexical.warnOnUnmatched = true := warns_of_panicked (agree.mp panicked)
    exact observed_of_same_warnings settings symbols text (wanted.trans otherWanted.symm)
  · have whole {settings : Settings} (other : (scan settings text).tokens ≠ .error .panicked) :
        (readPieces settings (.ofText text.toList) {}
          (pieces settings.grammar.rules text.toList)).1 ≠ some .panicked :=
      fun stops => other (scan_of_readPieces_stopped (Prod.ext stops rfl)).1
    exact observed_of_alike <| readPieces_alike_of_whole
      (readsAlike_withoutDetails settings lexical symbols) start_alike (whole panicked)
      (whole (mt agree.mpr panicked))

/-- Preferences only observe, as long as they do not break a scan off. Two scans that both do so, or
neither of which does, end with the same tokens or the same error and leave the same identifiers,
the same gaps and, but for the details, the same metrics. So do any two with the same wish to be
warned of gaps, and any two of a short text. What a scan says of unmatched input is a warning for
each gap that it lists, in their order, or nothing if these are not wanted. -/
theorem preferences_observe :
    (Observed (scan settings text)
        (scan { settings with lexical := lexical, symbols := symbols } text) ↔
      ((scan settings text).tokens = .error .panicked ↔
        (scan { settings with lexical := lexical, symbols := symbols } text).tokens =
          .error .panicked)) ∧
      (settings.lexical.warnOnUnmatched = lexical.warnOnUnmatched ∨
          Text.byteSize text.toList < UInt32.size - 1 →
        Observed (scan settings text)
          (scan { settings with lexical := lexical, symbols := symbols } text)) ∧
      gapWarnings (scan settings text).events =
        if settings.lexical.warnOnUnmatched then
          (scan settings text).gathered.gaps.toList.map fun gap => (.warning, some gap.span)
        else [] := by
  refine ⟨observed_iff settings lexical symbols text, ?_, gapWarnings_of_scan settings text⟩
  rintro (same | short)
  · exact observed_of_same_warnings settings symbols text same
  · exact (observed_iff settings lexical symbols text).mpr
      (iff_of_false (not_panicked_of_short short) (not_panicked_of_short short))

theorem preferences_observe_short :
    Text.byteSize (String.ofList ['$']).toList < UInt32.size - 1 ∧
      Observed (scan {} (String.ofList ['$']))
        (scan { lexical := { warnOnUnmatched := false } } (String.ofList ['$'])) := by
  have short : Text.byteSize (String.ofList ['$']).toList < UInt32.size - 1 := by
    rw [String.toList_ofList]
    decide
  exact ⟨short, (preferences_observe {} { warnOnUnmatched := false } {} _).2.1 (.inr short)⟩

end Observed

section LongGap

theorem noPanic_unwarned (lines : Source.Lines) (pieces : List Piece) :
    NoPanic { lexical := { warnOnUnmatched := false } } lines pieces := by
  rintro earlier text later - ⟨-, ⟨wanted, -, -⟩⟩
  contradiction

-- The count stays a variable here: a text that long must not be unfolded.
theorem scan_of_unwarned {count : Nat} (filled : count ≠ 0) :
    ∃ tokens, (scan { lexical := { warnOnUnmatched := false } }
      (String.ofList (List.replicate count '$'))).tokens = .ok tokens := by
  have cut : pieces Category.all (String.ofList (List.replicate count '$')).toList =
      [.gap (List.replicate count '$')] := pieces_replicate filled
  exact (scan_ok_iff _ _).mpr ⟨cut ▸ noOffence_gap _, noPanic_unwarned _ _⟩

/-- A text whose scan breaks off if it is to warn of gaps, and ends well if it is not. -/
theorem scan_of_long_gap_by_warnings :
    (scan {} (String.ofList (List.replicate 4294967295 '$'))).tokens = .error .panicked ∧
      ∃ tokens, (scan { lexical := { warnOnUnmatched := false } }
        (String.ofList (List.replicate 4294967295 '$'))).tokens = .ok tokens :=
  ⟨(scan_of_wrapped rfl).2, scan_of_unwarned (by decide)⟩

end LongGap

end LexReport.Scan
