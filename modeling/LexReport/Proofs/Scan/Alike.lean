import LexReport.Proofs.Scan.Limits

/-! Scans of the same pieces under the same limits and rules go on alike: what they say and show,
and what of the metrics is not looked at, changes nothing else. -/

set_option autoImplicit false

namespace LexReport.Scan

variable {α : Type}

/-- Settings with the same limits and rules, whose preferences count alike as far as metrics are
looked at. -/
structure ReadsAlike (look : Metrics → α) (settings others : Settings) : Prop where
  limits : settings.limits = others.limits
  grammar : settings.grammar = others.grammar
  matched : ∀ first second category lexeme, look first = look second →
    look (first.addMatch settings.lexical category lexeme) =
      look (second.addMatch others.lexical category lexeme)
  skipped : ∀ first second text, look first = look second →
    look (first.addGap text) = look (second.addGap text)

/-- Two scans under way that differ at most in what they said and in what is not looked at of their
metrics. -/
structure AlikeIn (look : Metrics → α) (first second : Progress) : Prop where
  place : first.place = second.place
  tokens : first.tokens = second.tokens
  identifiers : first.gathered.identifiers = second.gathered.identifiers
  gaps : first.gathered.gaps = second.gathered.gaps
  metrics : look first.gathered.metrics = look second.gathered.metrics

structure EndAlikeIn {ε : Type} (look : Metrics → α) (first second : Option ε × Progress) :
    Prop where
  outcome : first.1 = second.1
  left : AlikeIn look first.2 second.2

variable {look : Metrics → α} {settings others : Settings} {progress other : Progress}

theorem readsAlike_self (settings : Settings) : ReadsAlike id settings settings where
  limits := rfl
  grammar := rfl
  matched _ _ category lexeme same :=
    congrArg (fun metrics => metrics.addMatch settings.lexical category lexeme) same
  skipped _ _ text same := congrArg (fun metrics => metrics.addGap text) same

/-- If all of the metrics is looked at, all that was gathered is the same. -/
theorem AlikeIn.gathered {first second : Progress} (alike : AlikeIn id first second) :
    first.gathered = second.gathered := by
  obtain ⟨place, tokens, ⟨identifiers, metrics, gaps⟩, events⟩ := first
  obtain ⟨otherPlace, otherTokens, ⟨otherIdentifiers, otherMetrics, otherGaps⟩, otherEvents⟩ :=
    second
  obtain ⟨-, -, rfl, rfl, same⟩ := alike
  obtain rfl : metrics = otherMetrics := same
  rfl

theorem take_alike (reads : ReadsAlike look settings others)
    (alike : AlikeIn look progress other) (category : Category) (lexeme : String)
    (span : Source.Span) :
    EndAlikeIn look (progress.take settings category lexeme span)
      (other.take others category lexeme span) := by
  obtain ⟨place, tokens, ⟨identifiers, metrics, gaps⟩, events⟩ := progress
  obtain ⟨otherPlace, otherTokens, ⟨otherIdentifiers, otherMetrics, otherGaps⟩, otherEvents⟩ :=
    other
  obtain ⟨rfl, rfl, rfl, rfl, same⟩ := alike
  have counted := reads.matched metrics otherMetrics category lexeme same
  unfold Progress.take
  dsimp only
  rw [← reads.limits]
  split
  · exact ⟨rfl, rfl, rfl, rfl, rfl, counted⟩
  · split <;> exact ⟨rfl, rfl, rfl, rfl, rfl, counted⟩

theorem register_alike (limits : settings.limits = others.limits)
    (identifiers : Symbol.Identifiers) (name : String) (line : UInt32) :
    (∃ error after, register settings identifiers name line = (.error error, after) ∧
      register others identifiers name line = (.error error, after)) ∨
      ∃ told otherTold after, register settings identifiers name line = (.ok told, after) ∧
        register others identifiers name line = (.ok otherTold, after) := by
  unfold register
  rw [← limits]
  cases identifiers.insert settings.limits.symbols name line with
  | mk result after =>
    cases result with
    | error error => exact .inl ⟨_, after, rfl, rfl⟩
    | ok isNew => exact .inr ⟨_, _, after, rfl, rfl⟩

theorem read_alike (reads : ReadsAlike look settings others)
    (alike : AlikeIn look progress other) (category : Category) (text : List Char) :
    EndAlikeIn look (progress.read settings category text)
      (other.read others category text) := by
  obtain ⟨place, tokens, ⟨identifiers, metrics, gaps⟩, events⟩ := progress
  obtain ⟨otherPlace, otherTokens, ⟨otherIdentifiers, otherMetrics, otherGaps⟩, otherEvents⟩ :=
    other
  obtain ⟨rfl, rfl, rfl, rfl, same⟩ := alike
  dsimp only at same
  -- Which way a lexeme is read is decided by limits and rules, and these are shared.
  cases measured : lengthError? settings.limits.lexical category (String.ofList text).utf8ByteSize
      ⟨place, place.after text⟩ with
  | some error =>
    rw [read_of_long measured, read_of_long (reads.limits ▸ measured)]
    exact ⟨rfl, rfl, rfl, rfl, rfl, same⟩
  | none =>
    have fits : Fits settings.limits.lexical (.lexeme category text) :=
      fun span => lengthError?_eq_none measured span
    cases plain : plainName? settings.grammar (.lexeme category text) with
    | none =>
      rw [read_of_not_plain plain fits,
        read_of_not_plain (reads.grammar ▸ plain) (reads.limits ▸ fits), ← reads.grammar]
      apply take_alike reads
      exact ⟨rfl, rfl, rfl, rfl, same⟩
    | some name =>
      rw [read_of_plain plain fits, read_of_plain (reads.grammar ▸ plain) (reads.limits ▸ fits),
        ← reads.grammar]
      dsimp only
      rcases register_alike reads.limits identifiers name place.line with
        ⟨error, after, first, second⟩ | ⟨told, otherTold, after, first, second⟩
      · rw [first, second]
        exact ⟨rfl, rfl, rfl, rfl, rfl, same⟩
      · rw [first, second]
        apply take_alike reads
        exact ⟨rfl, rfl, rfl, rfl, same⟩

/-- Where a scan breaks off, the gap at fault is still counted and listed. -/
theorem skip_alike (reads : ReadsAlike look settings others)
    (alike : AlikeIn look progress other) (lines otherLines : Source.Lines) (text : List Char) :
    AlikeIn look (progress.skip settings lines text).2 (other.skip others otherLines text).2 := by
  obtain ⟨place, tokens, ⟨identifiers, metrics, gaps⟩, events⟩ := progress
  obtain ⟨otherPlace, otherTokens, ⟨otherIdentifiers, otherMetrics, otherGaps⟩, otherEvents⟩ :=
    other
  obtain ⟨rfl, rfl, rfl, rfl, same⟩ := alike
  have counted := reads.skipped metrics otherMetrics text same
  unfold Progress.skip
  dsimp only
  rw [← reads.limits]
  split <;> exact ⟨rfl, rfl, rfl, rfl, counted⟩

variable {lines otherLines : Source.Lines}

theorem advance_alike (reads : ReadsAlike look settings others)
    (alike : AlikeIn look progress other) {piece : Piece}
    (agree : (progress.advance settings lines piece).1 = some .panicked ↔
      (other.advance others otherLines piece).1 = some .panicked) :
    EndAlikeIn look (progress.advance settings lines piece)
      (other.advance others otherLines piece) := by
  cases piece with
  | gap text =>
    refine ⟨Option.ext fun stop => ?_, skip_alike reads alike lines otherLines text⟩
    -- A gap stops a scan with nothing but a panic.
    cases stop with
    | panicked => exact agree
    | failed error =>
      rw [Progress.advance, Progress.advance, skip_stops_iff, skip_stops_iff]
      simp
  | lexeme category text =>
    obtain ⟨same, left⟩ := read_alike reads alike category text
    rw [advance_lexeme, advance_lexeme, same]
    exact ⟨rfl, left⟩

theorem readPieces_cons_alike {piece : Piece} {rest : List Piece}
    (step : EndAlikeIn look (progress.advance settings lines piece)
      (other.advance others otherLines piece))
    (goesOn : ∀ next otherNext, progress.advance settings lines piece = (none, next) →
      other.advance others otherLines piece = (none, otherNext) → AlikeIn look next otherNext →
        EndAlikeIn look (readPieces settings lines next rest)
          (readPieces others otherLines otherNext rest)) :
    EndAlikeIn look (readPieces settings lines progress (piece :: rest))
      (readPieces others otherLines other (piece :: rest)) := by
  rw [readPieces, readPieces]
  generalize progress.advance settings lines piece = stepped at step goesOn
  generalize other.advance others otherLines piece = otherwise at step goesOn
  obtain ⟨outcome, next⟩ := stepped
  obtain ⟨otherOutcome, otherNext⟩ := otherwise
  obtain ⟨rfl, left⟩ := step
  cases outcome with
  | some stop => exact ⟨rfl, left⟩
  | none => exact goesOn _ _ rfl rfl left

/-- What else is only shown or said changes nothing of the course, if the same gaps can be shown. -/
theorem readPieces_alike (reads : ReadsAlike look settings others)
    (alike : AlikeIn look progress other) (sound : Sound settings progress) {pieces : List Piece}
    (drawn : ∀ gap ∈ gapsOf progress.place pieces,
      Undrawn settings lines gap ↔ Undrawn others otherLines gap) :
    EndAlikeIn look (readPieces settings lines progress pieces)
      (readPieces others otherLines other pieces) := by
  induction pieces generalizing progress other with
  | nil => exact ⟨rfl, alike⟩
  | cons piece rest ih =>
    rw [gapsOf_cons] at drawn
    refine readPieces_cons_alike (advance_alike reads alike ?_) ?_
    · cases piece with
      | gap text =>
        rw [Progress.advance, Progress.advance, skip_stops_iff, skip_stops_iff, ← alike.place,
          ← alike.gaps, ← reads.limits,
          drawn _ (List.mem_append_left _ (List.mem_singleton_self _))]
      | lexeme category text => simp [advance_lexeme]
    · intro next otherNext stepped _ left
      obtain ⟨step, soundNext, -⟩ := advance_step sound stepped
      refine ih left soundNext fun gap later => ?_
      exact drawn gap (List.mem_append_right _ (step.place ▸ later))

theorem readPieces_alike_of_whole (reads : ReadsAlike look settings others)
    (alike : AlikeIn look progress other) {pieces : List Piece}
    (whole : (readPieces settings lines progress pieces).1 ≠ some .panicked)
    (otherWhole : (readPieces others otherLines other pieces).1 ≠ some .panicked) :
    EndAlikeIn look (readPieces settings lines progress pieces)
      (readPieces others otherLines other pieces) := by
  induction pieces generalizing progress other with
  | nil => exact ⟨rfl, alike⟩
  | cons piece rest ih =>
    rw [readPieces] at whole otherWhole
    refine readPieces_cons_alike (advance_alike reads alike (iff_of_false ?_ ?_)) ?_
    · intro panics
      split at whole <;> rename_i stepped <;> rw [stepped] at panics
      · exact whole panics
      · cases panics
    · intro panics
      split at otherWhole <;> rename_i stepped <;> rw [stepped] at panics
      · exact otherWhole panics
      · cases panics
    · intro next otherNext stepped otherwise left
      rw [stepped] at whole
      rw [otherwise] at otherWhole
      exact ih left whole otherWhole

end LexReport.Scan
