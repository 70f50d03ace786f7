import LexReport.Proofs.Scan.Alike
import LexReport.Proofs.Scan.Outcome

/-! A scan that fails at a lexeme leaves what the scan of the text before that lexeme leaves, unless
it is the number of tokens that is too large. -/

set_option autoImplicit false

namespace LexReport.Scan

open Text

section Shortened

variable {rules : List Category} {before : Option Char}

theorem getLast?_or_of_filled {text : List Char} (filled : text ≠ []) (before : Option Char) :
    text.getLast?.or before = text.getLast? := by
  rw [List.getLast?_eq_some_getLast filled, Option.some_or]

theorem Skipped.shortened {text kept more : List Char}
    (skipped : Skipped rules before text (kept ++ more))
    (border : ¬ InsideWord ((text ++ kept).getLast?.or before) more) :
    Skipped rules before text kept := by
  induction text generalizing before with
  | nil => trivial
  | cons c text ih =>
    obtain ⟨unmatched, further⟩ := skipped
    have whole : Unmatched rules before (c :: (text ++ kept) ++ more) := by
      rwa [List.cons_append, List.append_assoc]
    rw [List.cons_append] at border
    refine ⟨whole.shortened ?_, ih further ?_⟩
    · rwa [getLast?_or_of_filled (List.cons_ne_nil _ _)] at border
    · rwa [getLast?_cons_or] at border

/-- The first pieces of a text are cut where the rules find them if the rest is left out, unless
that cuts a word. -/
theorem Cut.front {earlier rest : List Piece} (cut : Cut rules before (earlier ++ rest))
    (border : ¬ InsideWord ((joined earlier).getLast?.or before) (joined rest)) :
    Cut rules before earlier := by
  induction earlier generalizing before with
  | nil => exact .ends before
  | cons piece earlier ih =>
    have filled : piece.text ≠ [] := cut.filled piece List.mem_cons_self
    rw [joined_cons] at border
    have inner := border
    rw [getLast?_append_or filled] at inner
    rw [List.cons_append] at cut
    cases cut with
    | lexeme taken goesOn =>
      rw [joined_append] at taken
      rw [getLast?_or_of_filled (List.append_ne_nil_of_left_ne_nil filled _)] at border
      exact .lexeme (taken.shortened border) (ih goesOn inner)
    | gap _ skipped alone goesOn =>
      rw [joined_append] at skipped
      refine .gap filled (skipped.shortened border) ?_ (ih goesOn inner)
      rintro other more rfl
      exact alone other (more ++ rest) rfl

/-- Before a lexeme a text may be cut off: what comes earlier is cut into the same pieces. -/
theorem pieces_before_lexeme {text lexeme : List Char} {category : Category}
    {earlier later : List Piece}
    (found : pieces rules text = earlier ++ .lexeme category lexeme :: later) :
    pieces rules (joined earlier) = earlier := by
  have cut := cut_pieces rules text
  rw [found] at cut
  have border := cut.takes_at.reads.not_insideWord_before
  rw [← Option.or_none (o := (joined earlier).getLast?)] at border
  exact pieces_eq_iff.mpr ⟨rfl, cut.front border⟩

end Shortened

section Shown

variable {settings : Settings}

theorem readPieces_front_alone {front rest : List Piece} {after : Progress}
    (done : readPieces settings (.ofText (joined (front ++ rest))) {} front = (none, after)) :
    ∃ again, readPieces settings (.ofText (joined front)) {} front = (none, again) ∧
      AlikeIn id after again := by
  have same : AlikeIn id ({} : Progress) {} := ⟨rfl, rfl, rfl, rfl, rfl⟩
  have ended : EndAlikeIn id (readPieces settings (.ofText (joined (front ++ rest))) {} front)
      (readPieces settings (.ofText (joined front)) {} front) :=
    readPieces_alike (readsAlike_self settings) same (sound_start settings)
      fun gap member => undrawn_front_iff member
  rw [done] at ended
  exact ⟨(readPieces settings (.ofText (joined front)) {} front).2,
    Prod.ext ended.outcome.symm rfl, ended.left⟩

end Shown

section Failed

variable {settings : Settings} {progress after : Progress}

theorem take_error {category : Category} {lexeme : String} {span : Source.Span} {error : Error}
    (bound : progress.tokens.size ≤ settings.limits.lexical.maxTokenCount)
    (failed : progress.take settings category lexeme span = (some error, after)) :
    error = .tooManyTokens (settings.limits.lexical.maxTokenCount + 1) :=
  ((take_fails_iff bound).mp (congrArg Prod.fst failed)).2.2

/-- A lexeme that is refused for its length or its name leaves everything as it was. -/
theorem read_refused {category : Category} {text : List Char} {error : Error}
    (sound : Sound settings progress)
    (refused : progress.read settings category text = (some error, after))
    (notCounted : ∀ count, error ≠ .tooManyTokens count) : after.gathered = progress.gathered := by
  cases read_course settings progress category text with
  | long measured stopped =>
    obtain ⟨-, rfl⟩ := Prod.mk.inj (refused.symm.trans stopped)
    rfl
  | other fits notPlain taken =>
    exact absurd (take_error sound.tokens (taken.trans refused)) (notCounted _)
  | refused fits plain refusal stopped =>
    obtain ⟨-, -, -, rfl⟩ := register_refused sound.indexed refusal
    obtain ⟨-, rfl⟩ := Prod.mk.inj (refused.symm.trans stopped)
    rfl
  | registered fits plain registration taken =>
    refine absurd (take_error ?_ (taken.trans refused)) (notCounted _)
    exact sound.tokens

/-- After an error that is not about the number of tokens, what was gathered is what the scan of the
text before the lexeme at fault gathers, and that scan ends well. -/
theorem scan_before_failure {text : String} {error : Error}
    (failed : (scan settings text).tokens = .error (.failed error))
    (notCounted : ∀ count, error ≠ .tooManyTokens count) :
    ∃ earlier category lexeme first rest,
      Offends settings text.toList earlier category lexeme error ∧
      splitBytes? (Source.Position.start.after (joined earlier)).offset text.toList =
        some (first, lexeme ++ rest) ∧
      (∃ tokens, (scan settings (String.ofList first)).tokens = .ok tokens) ∧
      (scan settings (String.ofList first)).gathered = (scan settings text).gathered := by
  obtain ⟨earlier, category, lexeme, offends, noPanic⟩ := offends_of_failed failed
  obtain ⟨later, found⟩ := offends.found
  obtain ⟨between, after, front, stops, -, gathered⟩ := offends.course noPanic
  obtain ⟨-, sound, -⟩ := readPieces_run (sound_start settings) front
  have covers : joined (earlier ++ .lexeme category lexeme :: later) = text.toList := by
    rw [← joined_pieces settings.grammar.rules text.toList, found]
  have whole : joined earlier ++ (lexeme ++ joined later) = text.toList := by
    rw [← covers, joined_append]
    rfl
  refine ⟨earlier, category, lexeme, joined earlier, joined later, offends, ?_, ?_⟩
  · rw [← whole, after_offset]
    exact (congrArg (splitBytes? · _) (Nat.zero_add _)).trans (splitBytes?_append _ _)
  · -- The text before the lexeme is cut into the same pieces, and they are read in the same way.
    have cut : pieces settings.grammar.rules (String.ofList (joined earlier)).toList = earlier := by
      rw [String.toList_ofList]
      exact pieces_before_lexeme found
    rw [← covers] at front
    obtain ⟨again, done, alike⟩ := readPieces_front_alone front
    have read : readPieces settings (.ofText (String.ofList (joined earlier)).toList) {}
        (pieces settings.grammar.rules (String.ofList (joined earlier)).toList) =
          (none, again) := by
      rw [cut, String.toList_ofList, done]
    obtain ⟨ok, left⟩ := scan_of_readPieces read
    refine ⟨⟨_, ok⟩, ?_⟩
    rw [left, gathered, read_refused sound stops notCounted, alike.gathered]

theorem scan_before_failure_long_word :
    (scan { limits := { Limits.development with lexical := ⟨9, 2, 9, 9, 9⟩ } }
        (String.ofList ['1', ' ', '$', 'b', 'c', 'd'])).tokens =
      .error (.failed (.identifierTooLong 3 ⟨⟨3, 1, 4⟩, ⟨6, 1, 7⟩⟩)) ∧
      (∀ count, Error.identifierTooLong 3 ⟨⟨3, 1, 4⟩, ⟨6, 1, 7⟩⟩ ≠ .tooManyTokens count) ∧
      ∃ first,
        (∃ tokens, (scan { limits := { Limits.development with lexical := ⟨9, 2, 9, 9, 9⟩ } }
          (String.ofList first)).tokens = .ok tokens) ∧
        (scan { limits := { Limits.development with lexical := ⟨9, 2, 9, 9, 9⟩ } }
            (String.ofList first)).gathered =
          (scan { limits := { Limits.development with lexical := ⟨9, 2, 9, 9, 9⟩ } }
            (String.ofList ['1', ' ', '$', 'b', 'c', 'd'])).gathered := by
  have cut : pieces Category.all ['1', ' ', '$', 'b', 'c', 'd'] =
      [.lexeme .constant ['1'], .lexeme .whitespace [' '], .gap ['$'],
        .lexeme .identifier ['b', 'c', 'd']] := by
    decide +kernel
  have failed : (scan { limits := { Limits.development with lexical := ⟨9, 2, 9, 9, 9⟩ } }
      (String.ofList ['1', ' ', '$', 'b', 'c', 'd'])).tokens =
        .error (.failed (.identifierTooLong 3 ⟨⟨3, 1, 4⟩, ⟨6, 1, 7⟩⟩)) := by
    unfold scan
    rw [String.toList_ofList]
    dsimp only [Grammar.standard]
    rw [cut]
    rfl
  have notCounted : ∀ count,
      Error.identifierTooLong 3 ⟨⟨3, 1, 4⟩, ⟨6, 1, 7⟩⟩ ≠ .tooManyTokens count := by simp
  obtain ⟨-, -, -, first, -, -, -, ok, same⟩ := scan_before_failure failed notCounted
  exact ⟨failed, notCounted, first, ok, same⟩

end Failed

end LexReport.Scan
