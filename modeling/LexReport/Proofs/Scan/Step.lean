import LexReport.Proofs.Scan.Pieces
import LexReport.Proofs.Symbol.Identifiers
import LexReport.Scan.Run

/-! What reading one piece changes, and what reading all of them comes to. -/

set_option autoImplicit false

namespace LexReport.Scan

open Text

section Contributions

variable (grammar : Grammar)

def finalCategory (category : Category) (text : List Char) : Category :=
  if category = .identifier then grammar.classify (String.ofList text) else category

def token? (place : Source.Position) : Piece → Option Token
  | .gap _ => none
  | .lexeme category text =>
    if (finalCategory grammar category text).isSuppressed then none
    else some ⟨finalCategory grammar category text, String.ofList text, place, place.after text⟩

def plainName? : Piece → Option String
  | .gap _ => none
  | .lexeme category text =>
    if category = .identifier ∧ finalCategory grammar category text = .identifier then
      some (String.ofList text)
    else none

def gap? (place : Source.Position) : Piece → Option Gap
  | .gap text => some ⟨⟨place, place.after text⟩, String.ofList text⟩
  | .lexeme _ _ => none

def countPiece (preferences : LexicalPreferences) (metrics : Metrics) : Piece → Metrics
  | .gap text => metrics.addGap text
  | .lexeme category text =>
    metrics.addMatch preferences (finalCategory grammar category text) (String.ofList text)

/-- A gap whose line is to be shown and cannot be drawn. -/
structure Undrawn (settings : Settings) (lines : Source.Lines) (gap : Gap) : Prop where
  wanted : settings.lexical.warnOnUnmatched = true
  told : Notice.Level.debug.isWithin settings.level = true
  fails : lines.snippet? gap.span "unmatched input" = none

def Fits (limits : LexicalLimits) : Piece → Prop
  | .gap _ => True
  | .lexeme category text =>
    ∀ span, lengthError? limits category (String.ofList text).utf8ByteSize span = none

end Contributions

/-- What holds of a scan under way before and after each piece. -/
structure Sound (settings : Settings) (progress : Progress) : Prop where
  indexed : progress.gathered.identifiers.Indexed
  tokens : progress.tokens.size ≤ settings.limits.lexical.maxTokenCount
  names : progress.gathered.identifiers.names.length ≤ settings.limits.symbols.maxPlainIdentifiers

/-- What a piece that is read leaves behind. -/
structure Step (settings : Settings) (progress : Progress) (piece : Piece) (after : Progress) :
    Prop where
  place : after.place = progress.place.after piece.text
  tokens : after.tokens.toList =
    progress.tokens.toList ++ (token? settings.grammar progress.place piece).toList
  metrics : after.gathered.metrics =
    countPiece settings.grammar settings.lexical progress.gathered.metrics piece
  gaps : after.gathered.gaps.toList = progress.gathered.gaps.toList ++
    (gap? progress.place piece).toList.take
      (settings.limits.lexical.maxReportedGaps - progress.gathered.gaps.size)
  names : after.gathered.identifiers.names =
    (plainName? settings.grammar piece).toList.foldl Symbol.Identifiers.note
      progress.gathered.identifiers.names

section OneStep

variable {settings : Settings} {progress after : Progress}

/-- What no piece can break holds of what all of them leave, however the reading ends. -/
theorem readPieces_keeps {kept : Progress → Prop} {lines : Source.Lines}
    (step : ∀ progress piece, kept progress → kept (progress.advance settings lines piece).2)
    (start : kept progress) (pieces : List Piece) :
    kept (readPieces settings lines progress pieces).2 := by
  induction pieces generalizing progress with
  | nil => exact start
  | cons piece rest ih =>
    have next := step progress piece start
    rw [readPieces]
    split <;> rename_i advanced <;> rw [advanced] at next
    · exact next
    · exact ih next

theorem tellGap_stops_iff (lines : Source.Lines) (gap : Gap) (stop : Stop Error) :
    (tellGap settings lines gap).1 = some stop ↔
      stop = .panicked ∧ Undrawn settings lines gap := by
  unfold tellGap
  split
  · rename_i unwanted
    exact iff_of_false (by simp) fun stops => by simp [stops.2.wanted] at unwanted
  · rename_i wanted
    split
    · rename_i untold
      exact iff_of_false (by simp) fun stops => by simp [stops.2.told] at untold
    · rename_i told
      split
      · rename_i drawn
        exact iff_of_false (by simp) fun stops => nomatch drawn.symm.trans stops.2.fails
      · rename_i fails
        rw [Option.some.injEq, eq_comm]
        exact (and_iff_left ⟨by simpa using wanted, by simpa using told, fails⟩).symm

/-- A scan breaks off at a gap that is listed and whose line is to be shown and cannot be drawn. -/
theorem skip_stops_iff (settings : Settings) (lines : Source.Lines) (progress : Progress)
    (text : List Char) (stop : Stop Error) :
    (progress.skip settings lines text).1 = some stop ↔
      stop = .panicked ∧ progress.gathered.gaps.size < settings.limits.lexical.maxReportedGaps ∧
        Undrawn settings lines
          ⟨⟨progress.place, progress.place.after text⟩, String.ofList text⟩ := by
  obtain ⟨place, tokens, ⟨identifiers, metrics, gaps⟩, events⟩ := progress
  rw [Progress.skip]
  split
  · rename_i room
    dsimp only
    rw [tellGap_stops_iff, and_iff_right room]
  · rename_i full
    exact iff_of_false (by simp) fun stops => full stops.2.1

theorem skip_step (settings : Settings) (lines : Source.Lines) (progress : Progress)
    (text : List Char) :
    Step settings progress (.gap text) (progress.skip settings lines text).2 := by
  obtain ⟨place, tokens, ⟨identifiers, metrics, gaps⟩, events⟩ := progress
  rw [Progress.skip]
  split
  · rename_i room
    refine ⟨rfl, (List.append_nil _).symm, rfl, ?_, rfl⟩
    have some : settings.limits.lexical.maxReportedGaps - gaps.size =
        settings.limits.lexical.maxReportedGaps - gaps.size - 1 + 1 := by omega
    rw [some]
    simp [gap?]
  · rename_i full
    refine ⟨rfl, (List.append_nil _).symm, rfl, ?_, rfl⟩
    have none : settings.limits.lexical.maxReportedGaps - gaps.size = 0 := by omega
    rw [none]
    simp

theorem skip_sound (sound : Sound settings progress) (lines : Source.Lines) (text : List Char) :
    Sound settings (progress.skip settings lines text).2 := by
  obtain ⟨place, tokens, ⟨identifiers, metrics, gaps⟩, events⟩ := progress
  rw [Progress.skip]
  split <;> exact ⟨sound.indexed, sound.tokens, sound.names⟩

theorem take_ok {category : Category} {lexeme : String} {span : Source.Span}
    (taken : progress.take settings category lexeme span = (none, after)) :
    after.place = span.last ∧
      after.tokens.toList = progress.tokens.toList ++
        (if category.isSuppressed then [] else [⟨category, lexeme, span⟩]) ∧
      after.gathered = { progress.gathered with
        metrics := progress.gathered.metrics.addMatch settings.lexical category lexeme } ∧
      (progress.tokens.size ≤ settings.limits.lexical.maxTokenCount →
        after.tokens.size ≤ settings.limits.lexical.maxTokenCount) := by
  obtain ⟨place, tokens, ⟨identifiers, metrics, gaps⟩, events⟩ := progress
  unfold Progress.take at taken
  dsimp only at taken
  split at taken
  · rename_i suppressed
    obtain ⟨-, rfl⟩ := Prod.mk.inj taken
    simp [suppressed]
  · rename_i kept
    split at taken
    · exact absurd (Prod.mk.inj taken).1 (by simp)
    · rename_i room
      obtain ⟨-, rfl⟩ := Prod.mk.inj taken
      simp only [kept, Bool.false_eq_true, if_false, Array.toList_push, Array.size_push, true_and]
      omega

theorem take_succeeds {category : Category} {lexeme : String} {span : Source.Span}
    (room : category.isSuppressed = true ∨
      progress.tokens.size < settings.limits.lexical.maxTokenCount) :
    ∃ after, progress.take settings category lexeme span = (none, after) := by
  obtain ⟨place, tokens, ⟨identifiers, metrics, gaps⟩, events⟩ := progress
  unfold Progress.take
  dsimp only
  split
  · exact ⟨_, rfl⟩
  · rename_i kept
    rw [if_neg (Nat.not_le.mpr (room.resolve_left kept))]
    exact ⟨_, rfl⟩

theorem lengthError?_eq_none {limits : LexicalLimits} {category : Category} {size : Nat}
    {span : Source.Span} (fits : lengthError? limits category size span = none)
    (other : Source.Span) : lengthError? limits category size other = none := by
  unfold lengthError? at fits ⊢
  cases category <;> first | rfl | simpa using fits

instance (limits : LexicalLimits) : DecidablePred (Fits limits)
  | .gap _ => isTrue trivial
  | .lexeme category text =>
    decidable_of_iff
      (lengthError? limits category (String.ofList text).utf8ByteSize ⟨.start, .start⟩ = none)
      ⟨lengthError?_eq_none, fun fits => fits _⟩

theorem register_ok {identifiers others : Symbol.Identifiers} {name : String} {line : UInt32}
    {told : List Notice.Event}
    (registered : register settings identifiers name line = (.ok told, others)) :
    ∃ isNew, identifiers.insert settings.limits.symbols name line = (.ok isNew, others) := by
  unfold register at registered
  split at registered
  · exact absurd (Prod.mk.inj registered).1 (by simp)
  · rename_i isNew _ inserted
    obtain ⟨-, rfl⟩ := Prod.mk.inj registered
    exact ⟨isNew, inserted⟩

theorem register_succeeds {identifiers others : Symbol.Identifiers} {name : String} {line : UInt32}
    {isNew : Bool}
    (inserted : identifiers.insert settings.limits.symbols name line = (.ok isNew, others)) :
    ∃ told, register settings identifiers name line = (.ok told, others) := by
  unfold register
  rw [inserted]
  exact ⟨_, rfl⟩

theorem read_of_plain {category : Category} {text : List Char} {name : String}
    (plain : plainName? settings.grammar (.lexeme category text) = some name)
    (fits : Fits settings.limits.lexical (.lexeme category text)) :
    progress.read settings category text =
      match register settings progress.gathered.identifiers name progress.place.line with
      | (.error error, identifiers) =>
        (some error, { progress with
          gathered := { progress.gathered with identifiers := identifiers }
          events := progress.events.push (errorEvent settings error) })
      | (.ok told, identifiers) =>
        Progress.take settings { progress with
            gathered := { progress.gathered with identifiers := identifiers }
            events := progress.events ++ told.toArray }
          (finalCategory settings.grammar category text) (String.ofList text)
          ⟨progress.place, progress.place.after text⟩ := by
  obtain ⟨place, tokens, ⟨identifiers, metrics, gaps⟩, events⟩ := progress
  rw [plainName?] at plain
  obtain ⟨both, rfl⟩ := Option.ite_none_right_eq_some.mp plain |>.imp_right Option.some.inj
  rw [Progress.read, fits]
  exact if_pos both

theorem read_of_not_plain {category : Category} {text : List Char}
    (notPlain : plainName? settings.grammar (.lexeme category text) = none)
    (fits : Fits settings.limits.lexical (.lexeme category text)) :
    progress.read settings category text =
      progress.take settings (finalCategory settings.grammar category text) (String.ofList text)
        ⟨progress.place, progress.place.after text⟩ := by
  rw [plainName?] at notPlain
  have neither : ¬ (category = .identifier ∧
      finalCategory settings.grammar category text = .identifier) := by
    intro both
    rw [if_pos both] at notPlain
    contradiction
  rw [Progress.read, fits]
  exact if_neg neither

theorem fits_of_read {category : Category} {text : List Char}
    (done : progress.read settings category text = (none, after)) :
    Fits settings.limits.lexical (.lexeme category text) := by
  unfold Progress.read at done
  dsimp only at done
  split at done
  · exact absurd (Prod.mk.inj done).1 (by simp)
  · rename_i fits
    exact fun other => lengthError?_eq_none fits other

theorem token?_toList (grammar : Grammar) (place : Source.Position) (category : Category)
    (text : List Char) :
    (token? grammar place (.lexeme category text)).toList =
      if (finalCategory grammar category text).isSuppressed then []
      else
        [⟨finalCategory grammar category text, String.ofList text, place, place.after text⟩] := by
  rw [token?]
  split <;> rfl

-- A plain identifier changes what was gathered before its lexeme is taken, so the scan that takes
-- it is not the one that reads the piece: only the place and the tokens are still the same.
theorem take_step {category : Category} {text : List Char} {identifiers : Symbol.Identifiers}
    {events : Array Notice.Event} (sound : Sound settings progress)
    (indexed : identifiers.Indexed)
    (noted : identifiers.names = (plainName? settings.grammar (.lexeme category text)).toList.foldl
      Symbol.Identifiers.note progress.gathered.identifiers.names)
    (bound : identifiers.names.length ≤ settings.limits.symbols.maxPlainIdentifiers)
    (taken : Progress.take settings { progress with
        gathered := { progress.gathered with identifiers := identifiers }
        events := events }
      (finalCategory settings.grammar category text) (String.ofList text)
      ⟨progress.place, progress.place.after text⟩ = (none, after)) :
    Step settings progress (.lexeme category text) after ∧ Sound settings after := by
  obtain ⟨place, tokens, gathered, room⟩ := take_ok taken
  constructor
  · refine ⟨place, ?_, ?_, ?_, ?_⟩
    · rw [tokens, token?_toList]
    · rw [gathered]
      rfl
    · rw [gathered]
      simp [gap?]
    · rw [gathered]
      exact noted
  · refine ⟨?_, room sound.tokens, ?_⟩
    · rw [gathered]
      exact indexed
    · rw [gathered]
      exact bound

theorem read_step {category : Category} {text : List Char} (sound : Sound settings progress)
    (done : progress.read settings category text = (none, after)) :
    Step settings progress (.lexeme category text) after ∧ Sound settings after := by
  have fits := fits_of_read done
  cases plain : plainName? settings.grammar (.lexeme category text) with
  | none =>
    rw [read_of_not_plain plain fits] at done
    apply take_step sound sound.indexed _ sound.names done
    rw [plain]
    rfl
  | some name =>
    rw [read_of_plain plain fits] at done
    split at done
    · exact absurd (Prod.mk.inj done).1 (by simp)
    · rename_i told identifiers registered
      obtain ⟨isNew, inserted⟩ := register_ok registered
      obtain ⟨indexed, noted, bound⟩ := Symbol.Identifiers.names_of_insert sound.indexed inserted
      apply take_step sound indexed _ (bound sound.names) done
      rw [plain]
      exact noted

theorem advance_lexeme (lines : Source.Lines) (category : Category) (text : List Char) :
    progress.advance settings lines (.lexeme category text) =
      ((progress.read settings category text).1.map .failed,
        (progress.read settings category text).2) := by
  rw [Progress.advance]
  split <;> rename_i read <;> rw [read] <;> rfl

theorem read_of_advance {lines : Source.Lines} {category : Category} {text : List Char}
    (done : progress.advance settings lines (.lexeme category text) = (none, after)) :
    progress.read settings category text = (none, after) := by
  rw [advance_lexeme] at done
  obtain ⟨none, rfl⟩ := Prod.mk.inj done
  exact Prod.ext (Option.map_eq_none_iff.mp none) rfl

theorem advance_step {lines : Source.Lines} {piece : Piece} (sound : Sound settings progress)
    (done : progress.advance settings lines piece = (none, after)) :
    Step settings progress piece after ∧ Sound settings after ∧
      Fits settings.limits.lexical piece := by
  cases piece with
  | gap text =>
    obtain rfl : (progress.skip settings lines text).2 = after := congrArg Prod.snd done
    exact ⟨skip_step settings lines progress text, skip_sound sound lines text, trivial⟩
  | lexeme category text =>
    have read := read_of_advance done
    obtain ⟨step, soundAfter⟩ := read_step sound read
    exact ⟨step, soundAfter, fits_of_read read⟩

theorem advance_succeeds {lines : Source.Lines} {piece : Piece} (sound : Sound settings progress)
    (fits : Fits settings.limits.lexical piece)
    (tokenRoom : (progress.tokens.toList ++
      (token? settings.grammar progress.place piece).toList).length ≤
        settings.limits.lexical.maxTokenCount)
    (nameRoom : ((plainName? settings.grammar piece).toList.foldl Symbol.Identifiers.note
      progress.gathered.identifiers.names).length ≤ settings.limits.symbols.maxPlainIdentifiers)
    (drawn : ∀ gap, gap? progress.place piece = some gap → ¬ Undrawn settings lines gap) :
    ∃ after, progress.advance settings lines piece = (none, after) := by
  cases piece with
  | gap text =>
    refine ⟨_, Prod.ext (Option.eq_none_iff_forall_ne_some.mpr fun stop stops => ?_) rfl⟩
    exact drawn _ rfl ((skip_stops_iff settings lines progress text stop).mp stops).2.2
  | lexeme category text =>
    have room : (finalCategory settings.grammar category text).isSuppressed = true ∨
        progress.tokens.size < settings.limits.lexical.maxTokenCount := by
      rw [token?_toList] at tokenRoom
      by_cases suppressed : (finalCategory settings.grammar category text).isSuppressed = true
      · exact .inl suppressed
      · rw [if_neg suppressed, List.length_append, Array.length_toList] at tokenRoom
        exact .inr tokenRoom
    -- A lexeme stops a scan only while it is read; its place moves on by itself.
    suffices read : ∃ after, progress.read settings category text = (none, after) by
      obtain ⟨after, read⟩ := read
      exact ⟨after, by rw [advance_lexeme, read]; rfl⟩
    cases plain : plainName? settings.grammar (.lexeme category text) with
    | none =>
      rw [read_of_not_plain plain fits]
      exact take_succeeds room
    | some name =>
      rw [plain] at nameRoom
      obtain ⟨isNew, others, inserted⟩ := Symbol.Identifiers.insert_ok sound.indexed
        settings.limits.symbols name progress.place.line nameRoom
      obtain ⟨told, registered⟩ := register_succeeds inserted
      rw [read_of_plain plain fits, registered]
      exact take_succeeds room

end OneStep

section Run

variable {settings : Settings} {progress after : Progress}

def located (place : Source.Position) : List Piece → List (Source.Position × Piece)
  | [] => []
  | piece :: rest => (place, piece) :: located (place.after piece.text) rest

def tokensOf (grammar : Grammar) (place : Source.Position) (pieces : List Piece) : List Token :=
  (located place pieces).filterMap fun piece => token? grammar piece.1 piece.2

def gapsOf (place : Source.Position) (pieces : List Piece) : List Gap :=
  (located place pieces).filterMap fun piece => gap? piece.1 piece.2

theorem tokensOf_cons (grammar : Grammar) (place : Source.Position) (piece : Piece)
    (rest : List Piece) :
    tokensOf grammar place (piece :: rest) =
      (token? grammar place piece).toList ++ tokensOf grammar (place.after piece.text) rest := by
  rw [tokensOf, located, List.filterMap_cons]
  cases token? grammar place piece <;> rfl

theorem gapsOf_cons (place : Source.Position) (piece : Piece) (rest : List Piece) :
    gapsOf place (piece :: rest) =
      (gap? place piece).toList ++ gapsOf (place.after piece.text) rest := by
  rw [gapsOf, located, List.filterMap_cons]
  cases gap? place piece <;> rfl

theorem gapsOf_append (place : Source.Position) (first rest : List Piece) :
    gapsOf place (first ++ rest) =
      gapsOf place first ++ gapsOf (place.after (joined first)) rest := by
  induction first generalizing place with
  | nil => rfl
  | cons piece first ih =>
    rw [List.cons_append, gapsOf_cons, gapsOf_cons, ih, List.append_assoc, joined_cons,
      Source.Position.after_append]

theorem gapsOf_singleton (place : Source.Position) (piece : Piece) :
    gapsOf place [piece] = (gap? place piece).toList :=
  (gapsOf_cons place piece []).trans (List.append_nil _)

def namesAfter (grammar : Grammar) (names : List String) (pieces : List Piece) : List String :=
  (pieces.filterMap (plainName? grammar)).foldl Symbol.Identifiers.note names

theorem namesAfter_cons (grammar : Grammar) (names : List String) (piece : Piece)
    (rest : List Piece) :
    namesAfter grammar names (piece :: rest) =
      namesAfter grammar
        ((plainName? grammar piece).toList.foldl Symbol.Identifiers.note names) rest := by
  rw [namesAfter, List.filterMap_cons]
  cases plainName? grammar piece <;> rfl

theorem length_le_namesAfter (grammar : Grammar) (names : List String) (pieces : List Piece) :
    names.length ≤ (namesAfter grammar names pieces).length := by
  rw [namesAfter]
  generalize pieces.filterMap (plainName? grammar) = offered
  induction offered generalizing names with
  | nil => exact Nat.le_refl _
  | cons name offered ih =>
    exact (Symbol.Identifiers.length_le_note names name).trans (ih _)

structure Run (settings : Settings) (progress : Progress) (pieces : List Piece)
    (after : Progress) : Prop where
  place : after.place = progress.place.after (joined pieces)
  tokens : after.tokens.toList =
    progress.tokens.toList ++ tokensOf settings.grammar progress.place pieces
  metrics : after.gathered.metrics =
    pieces.foldl (countPiece settings.grammar settings.lexical) progress.gathered.metrics
  gaps : after.gathered.gaps.toList = progress.gathered.gaps.toList ++
    (gapsOf progress.place pieces).take
      (settings.limits.lexical.maxReportedGaps - progress.gathered.gaps.size)
  names : after.gathered.identifiers.names =
    namesAfter settings.grammar progress.gathered.identifiers.names pieces

theorem Step.run {piece : Piece} {between : Progress} {rest : List Piece}
    (step : Step settings progress piece between) (run : Run settings between rest after) :
    Run settings progress (piece :: rest) after := by
  refine ⟨?_, ?_, ?_, ?_, ?_⟩
  · rw [run.place, step.place, joined_cons, Source.Position.after_append]
  · rw [run.tokens, step.tokens, step.place, tokensOf_cons, List.append_assoc]
  · rw [run.metrics, step.metrics, List.foldl_cons]
  · -- What the piece leaves of the limit is what the others may list.
    have listed : between.gathered.gaps.size = progress.gathered.gaps.size +
        ((gap? progress.place piece).toList.take
          (settings.limits.lexical.maxReportedGaps - progress.gathered.gaps.size)).length := by
      rw [← Array.length_toList, step.gaps, List.length_append, Array.length_toList]
    rw [run.gaps, step.gaps, step.place, gapsOf_cons, List.append_assoc, List.take_append, listed,
      List.length_take]
    congr 3
    omega
  · rw [run.names, step.names, namesAfter_cons]

theorem readPieces_run {lines : Source.Lines} {pieces : List Piece}
    (sound : Sound settings progress)
    (done : readPieces settings lines progress pieces = (none, after)) :
    Run settings progress pieces after ∧ Sound settings after ∧
      ∀ piece ∈ pieces, Fits settings.limits.lexical piece := by
  induction pieces generalizing progress with
  | nil =>
    obtain ⟨-, rfl⟩ := Prod.mk.inj done
    refine ⟨⟨rfl, ?_, rfl, ?_, rfl⟩, sound, by simp⟩
    · exact (List.append_nil _).symm
    · simp [gapsOf, located]
  | cons piece rest ih =>
    rw [readPieces] at done
    split at done
    · exact absurd (Prod.mk.inj done).1 (by simp)
    · rename_i between stepped
      obtain ⟨step, soundBetween, fits⟩ := advance_step sound stepped
      obtain ⟨run, soundAfter, others⟩ := ih soundBetween done
      exact ⟨step.run run, soundAfter, List.forall_mem_cons.mpr ⟨fits, others⟩⟩

/-- A run ends without an error if every piece fits, there is room for all that they add, and every
gap can be shown. -/
theorem readPieces_succeeds (lines : Source.Lines) {pieces : List Piece}
    (sound : Sound settings progress)
    (fits : ∀ piece ∈ pieces, Fits settings.limits.lexical piece)
    (tokenRoom : (progress.tokens.toList ++
      tokensOf settings.grammar progress.place pieces).length ≤
        settings.limits.lexical.maxTokenCount)
    (nameRoom : (namesAfter settings.grammar progress.gathered.identifiers.names pieces).length ≤
      settings.limits.symbols.maxPlainIdentifiers)
    (drawn : ∀ gap ∈ gapsOf progress.place pieces, ¬ Undrawn settings lines gap) :
    ∃ after, readPieces settings lines progress pieces = (none, after) := by
  induction pieces generalizing progress with
  | nil => exact ⟨progress, rfl⟩
  | cons piece rest ih =>
    -- Tokens and names only grow, so there is room for the first piece if there is for all.
    obtain ⟨fitsHere, others⟩ := List.forall_mem_cons.mp fits
    rw [tokensOf_cons, ← List.append_assoc] at tokenRoom
    rw [namesAfter_cons] at nameRoom
    rw [gapsOf_cons] at drawn
    obtain ⟨between, stepped⟩ := advance_succeeds sound fitsHere
      (le_trans (by simp) tokenRoom) (le_trans (length_le_namesAfter _ _ _) nameRoom)
      fun gap here => drawn gap (List.mem_append_left _ (Option.mem_toList.mpr here))
    obtain ⟨step, soundBetween, -⟩ := advance_step sound stepped
    rw [← step.tokens, ← step.place] at tokenRoom
    rw [← step.names] at nameRoom
    rw [readPieces, stepped]
    refine ih soundBetween others tokenRoom nameRoom fun gap later => ?_
    exact drawn gap (List.mem_append_right _ (step.place ▸ later))

end Run

section Counts

variable (grammar : Grammar) (preferences : LexicalPreferences)

def isLeftOut : Piece → Bool
  | .gap _ => false
  | .lexeme category text => (finalCategory grammar category text).isSuppressed

theorem addMatch_eq (metrics : Metrics) (category : Category) (lexeme : String) :
    metrics.addMatch preferences category lexeme = { metrics with
      tokens := metrics.tokens + if !category.isSuppressed then 1 else 0
      datatypes := metrics.datatypes + if category == .datatype then 1 else 0
      keywords := metrics.keywords + if category == .keyword then 1 else 0
      identifiers := metrics.identifiers + if category == .identifier then 1 else 0
      operators := metrics.operators + if category.isOperator then 1 else 0
      literals := metrics.literals + if category.kind == .literal then 1 else 0
      suppressed := metrics.suppressed + if category.isSuppressed then 1 else 0
      comments := metrics.comments + if category == .comment then 1 else 0
      longestComment :=
        if category == .comment then max metrics.longestComment lexeme.utf8ByteSize
        else metrics.longestComment
      longestString :=
        if category == .stringLiteral then max metrics.longestString lexeme.utf8ByteSize
        else metrics.longestString
      byCategory :=
        if preferences.collectDetails then metrics.byCategory.add category
        else metrics.byCategory
      byOperator :=
        if preferences.trackOperators && category.isOperator then metrics.byOperator.add lexeme
        else metrics.byOperator } := by
  unfold Metrics.addMatch
  cases category <;> cases preferences.collectDetails <;> cases preferences.trackOperators <;> rfl

theorem foldl_countPiece (pieces : List Piece) (place : Source.Position) (metrics : Metrics) :
    (pieces.foldl (countPiece grammar preferences) metrics).gaps =
        metrics.gaps + (gapsOf place pieces).length ∧
      (pieces.foldl (countPiece grammar preferences) metrics).gapChars =
        metrics.gapChars + ((gapsOf place pieces).flatMap fun gap => gap.text.toList).length ∧
      (pieces.foldl (countPiece grammar preferences) metrics).suppressed =
        metrics.suppressed + pieces.countP (isLeftOut grammar) := by
  induction pieces generalizing place metrics with
  | nil => exact ⟨rfl, rfl, rfl⟩
  | cons piece rest ih =>
    obtain ⟨gaps, gapChars, suppressed⟩ := ih (place.after piece.text)
      (countPiece grammar preferences metrics piece)
    rw [List.foldl_cons, gaps, gapChars, suppressed, gapsOf_cons, List.countP_cons]
    cases piece with
    | gap text =>
      simp [countPiece, Metrics.addGap, gap?, isLeftOut, Nat.add_assoc, Nat.add_comm]
    | lexeme category text =>
      -- The details that preferences turn on are other counters.
      rw [countPiece, addMatch_eq]
      refine ⟨rfl, rfl, ?_⟩
      rw [isLeftOut]
      dsimp only
      omega

end Counts

section Whole

variable {settings : Settings} {after : Progress}

theorem scan_ok {text : String} {tokens : List Token}
    (ok : (scan settings text).tokens = .ok tokens) :
    ∃ after, readPieces settings (.ofText text.toList) {}
        (pieces settings.grammar.rules text.toList) = (none, after) ∧
      after.tokens.toList = tokens ∧ (scan settings text).gathered = after.gathered := by
  unfold scan at ok ⊢
  dsimp only at ok ⊢
  split at ok
  · contradiction
  · rename_i place others gathered events done
    rw [done]
    exact ⟨_, rfl, Except.ok.inj ok, rfl⟩

/-- However a scan ends, what it gathers is what reading the pieces of its text gathers. -/
theorem gathered_of_scan (settings : Settings) (text : String) :
    (scan settings text).gathered = (readPieces settings (.ofText text.toList) {}
      (pieces settings.grammar.rules text.toList)).2.gathered := by
  unfold scan
  dsimp only
  split <;> rename_i ended <;> rw [ended]

theorem tokens_of_scan (settings : Settings) (text : String) :
    (scan settings text).tokens =
      match readPieces settings (.ofText text.toList) {}
        (pieces settings.grammar.rules text.toList) with
      | (some stop, _) => .error stop
      | (none, after) => .ok after.tokens.toList := by
  unfold scan
  dsimp only
  split <;> rename_i ended <;> rw [ended]

theorem sound_start (settings : Settings) : Sound settings {} where
  indexed := Symbol.Identifiers.indexed_empty
  tokens := Nat.zero_le _
  names := Nat.zero_le _

theorem scan_of_readPieces {text : String}
    (done : readPieces settings (.ofText text.toList) {}
      (pieces settings.grammar.rules text.toList) = (none, after)) :
    (scan settings text).tokens = .ok after.tokens.toList ∧
      (scan settings text).gathered = after.gathered := by
  unfold scan
  dsimp only
  rw [done]
  exact ⟨rfl, rfl⟩

end Whole

end LexReport.Scan
