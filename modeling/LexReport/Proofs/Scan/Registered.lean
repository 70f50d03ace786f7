import LexReport.Proofs.Scan.Limits

/-! The identifiers that a scan keeps: a record for each plain identifier among the tokens, with the
line of the first one, and never one for a word that is not plain. -/

set_option autoImplicit false

namespace LexReport.Symbol.Identifiers

variable {identifiers after : Identifiers} {limits : SymbolLimits} {name : String} {line : UInt32}

theorem records_of_insert {isNew : Bool} (indexed : Indexed identifiers)
    (inserted : identifiers.insert limits name line = (.ok isNew, after)) :
    after.records.toList =
      keepFirst IdentifierRecord.name identifiers.records.toList (.seen name line) := by
  rcases insert_cases indexed limits name line with ⟨held, made⟩ | ⟨-, -, made⟩ |
    ⟨isNew, -, made⟩ <;> rw [inserted] at made <;> obtain ⟨outcome, rfl⟩ := Prod.mk.inj made
  · exact (if_pos held).symm
  · contradiction
  · rw [Array.toList_push]
    exact (if_neg isNew).symm

theorem mem_names_insert (limits : SymbolLimits) (identifiers : Identifiers) (name : String)
    (line : UInt32) {other : String}
    (member : other ∈ (identifiers.insert limits name line).2.names) :
    other ∈ identifiers.names ∨ other = name := by
  obtain ⟨records, index⟩ := identifiers
  unfold insert at member
  dsimp only at member
  split at member
  · exact .inl member
  · split at member
    · exact .inl member
    · rw [names_push, List.mem_append, List.mem_singleton] at member
      exact member

end LexReport.Symbol.Identifiers

namespace LexReport.Scan

open LexReport.Symbol (IdentifierRecord keepFirst firsts)

section Records

variable {settings : Settings} {progress after : Progress}

def record? (grammar : Grammar) (place : Source.Position) (piece : Piece) :
    Option IdentifierRecord :=
  (plainName? grammar piece).map fun name => .seen name place.line

def recordsOf (grammar : Grammar) (place : Source.Position) (pieces : List Piece) :
    List IdentifierRecord :=
  (located place pieces).filterMap fun piece => record? grammar piece.1 piece.2

theorem recordsOf_cons (grammar : Grammar) (place : Source.Position) (piece : Piece)
    (rest : List Piece) :
    recordsOf grammar place (piece :: rest) =
      (record? grammar place piece).toList ++ recordsOf grammar (place.after piece.text) rest := by
  rw [recordsOf, located, List.filterMap_cons]
  cases record? grammar place piece <;> rfl

theorem advance_records {lines : Source.Lines} {piece : Piece} (sound : Sound settings progress)
    (done : progress.advance settings lines piece = (none, after)) :
    after.gathered.identifiers.records.toList =
      (record? settings.grammar progress.place piece).toList.foldl
        (keepFirst IdentifierRecord.name) progress.gathered.identifiers.records.toList := by
  cases piece with
  | gap text =>
    obtain rfl : (progress.skip settings lines text).2 = after := congrArg Prod.snd done
    obtain ⟨place, tokens, ⟨identifiers, metrics, gaps⟩, events⟩ := progress
    unfold Progress.skip
    dsimp only
    split <;> rfl
  | lexeme category text =>
    have done := read_of_advance done
    unfold record?
    cases read_course settings progress category text with
    | long measured stopped => cases done.symm.trans stopped
    | other fits notPlain taken =>
      obtain ⟨-, -, gathered, -⟩ := take_ok (taken.trans done)
      rw [gathered, notPlain]
      rfl
    | refused fits plain refusal stopped => cases done.symm.trans stopped
    | registered fits plain registration taken =>
      obtain ⟨isNew, inserted⟩ := register_ok registration
      obtain ⟨-, -, gathered, -⟩ := take_ok (taken.trans done)
      rw [gathered, plain]
      exact Symbol.Identifiers.records_of_insert sound.indexed inserted

theorem readPieces_records {lines : Source.Lines} {pieces : List Piece}
    (sound : Sound settings progress)
    (done : readPieces settings lines progress pieces = (none, after)) :
    after.gathered.identifiers.records.toList =
      (recordsOf settings.grammar progress.place pieces).foldl
        (keepFirst IdentifierRecord.name) progress.gathered.identifiers.records.toList := by
  induction pieces generalizing progress with
  | nil =>
    obtain ⟨-, rfl⟩ := Prod.mk.inj done
    rfl
  | cons piece rest ih =>
    rw [readPieces] at done
    split at done
    · exact absurd (Prod.mk.inj done).1 (by simp)
    · rename_i between stepped
      obtain ⟨step, soundBetween, -⟩ := advance_step sound stepped
      rw [ih soundBetween done, step.place, advance_records sound stepped, recordsOf_cons,
        List.foldl_append]

end Records

section Tokens

def plainTokens (tokens : List Token) : List Token :=
  tokens.filter (·.category = .identifier)

def firstUses (tokens : List Token) : List Token :=
  firsts Token.lexeme (plainTokens tokens)

def recordOf (token : Token) : IdentifierRecord := .seen token.lexeme token.span.first.line

theorem record?_toList (grammar : Grammar) (place : Source.Position) (piece : Piece) :
    (record? grammar place piece).toList =
      (plainTokens (token? grammar place piece).toList).map recordOf := by
  cases piece with
  | gap text => rfl
  | lexeme category text =>
    rw [token?_toList, record?, plainName?]
    by_cases plain : finalCategory grammar category text = .identifier
    · -- Only words that the identifier rule finds end up as plain identifiers.
      have word : category = .identifier := by
        by_contra other
        rw [finalCategory, if_neg other] at plain
        exact other plain
      rw [if_pos ⟨word, plain⟩, plain]
      rfl
    · rw [if_neg fun both => plain both.2]
      cases (finalCategory grammar category text).isSuppressed <;> simp [plainTokens, plain]

theorem recordsOf_eq (grammar : Grammar) (place : Source.Position) (pieces : List Piece) :
    recordsOf grammar place pieces =
      (plainTokens (tokensOf grammar place pieces)).map recordOf := by
  induction pieces generalizing place with
  | nil => rfl
  | cons piece rest ih =>
    rw [recordsOf_cons, tokensOf_cons, plainTokens, List.filter_append, List.map_append, ih,
      record?_toList]
    rfl

theorem records_of_scan {settings : Settings} {text : String} {tokens : List Token}
    (ok : (scan settings text).tokens = .ok tokens) :
    (scan settings text).gathered.identifiers.records.toList =
      (firstUses tokens).map recordOf := by
  obtain ⟨after, done, rfl, gathered⟩ := scan_ok ok
  obtain ⟨run, -, -⟩ := readPieces_run (sound_start settings) done
  have same (first second : Token) :
      (recordOf first).name = (recordOf second).name ↔ first.lexeme = second.lexeme := Iff.rfl
  rw [gathered, readPieces_records (sound_start settings) done, run.tokens, recordsOf_eq, firstUses,
    Symbol.map_firsts same]
  rfl

end Tokens

section Words

variable {settings : Settings}

theorem take_identifiers (progress : Progress) (category : Category) (lexeme : String)
    (span : Source.Span) :
    (progress.take settings category lexeme span).2.gathered.identifiers =
      progress.gathered.identifiers := by
  obtain ⟨place, tokens, ⟨identifiers, metrics, gaps⟩, events⟩ := progress
  unfold Progress.take
  dsimp only
  split
  · rfl
  · split <;> rfl

theorem mem_names_register {identifiers others : Symbol.Identifiers} {own name : String}
    {line : UInt32} {outcome : Except Error (List Notice.Event)}
    (registered : register settings identifiers own line = (outcome, others))
    (held : name ∈ others.names) : name ∈ identifiers.names ∨ own = name := by
  have kept : (identifiers.insert settings.limits.symbols own line).2 = others := by
    unfold register at registered
    split at registered <;> rename_i inserted <;>
      rw [inserted, ← (Prod.mk.inj registered).2]
  rw [← kept] at held
  exact (Symbol.Identifiers.mem_names_insert _ _ _ _ held).imp_right Eq.symm

theorem mem_names_advance {lines : Source.Lines} {progress : Progress} {piece : Piece}
    {name : String}
    (member : name ∈ (progress.advance settings lines piece).2.gathered.identifiers.names) :
    name ∈ progress.gathered.identifiers.names ∨ plainName? settings.grammar piece = some name := by
  cases piece with
  | gap text =>
    left
    obtain ⟨place, tokens, ⟨identifiers, metrics, gaps⟩, events⟩ := progress
    rw [Progress.advance, Progress.skip] at member
    dsimp only at member
    split at member <;> exact member
  | lexeme category text =>
    rw [advance_lexeme] at member
    dsimp only at member
    cases read_course settings progress category text with
    | long measured stopped =>
      rw [stopped] at member
      exact .inl member
    | other fits notPlain taken =>
      rw [← taken, take_identifiers] at member
      exact .inl member
    | refused fits plain refusal stopped =>
      rw [stopped] at member
      rw [plain, Option.some.injEq]
      exact mem_names_register refusal member
    | registered fits plain registration taken =>
      rw [← taken, take_identifiers] at member
      rw [plain, Option.some.injEq]
      exact mem_names_register registration member

theorem mem_names_readPieces {lines : Source.Lines} {progress : Progress} {pieces : List Piece}
    {name : String}
    (member : name ∈
      (readPieces settings lines progress pieces).2.gathered.identifiers.names) :
    name ∈ progress.gathered.identifiers.names ∨
      ∃ piece ∈ pieces, plainName? settings.grammar piece = some name := by
  induction pieces generalizing progress with
  | nil => exact .inl member
  | cons piece rest ih =>
    have step (held : name ∈
        (progress.advance settings lines piece).2.gathered.identifiers.names) :
        name ∈ progress.gathered.identifiers.names ∨
          ∃ other ∈ piece :: rest, plainName? settings.grammar other = some name :=
      (mem_names_advance held).imp_right fun own => ⟨piece, List.mem_cons_self, own⟩
    rw [readPieces] at member
    split at member
    · rename_i stopped
      rw [stopped] at step
      exact step member
    · rename_i next stepped
      rw [stepped] at step
      rcases ih member with held | ⟨other, later, own⟩
      · exact step held
      · exact .inr ⟨other, List.mem_cons_of_mem _ later, own⟩

/-- However a scan ends, it keeps only words of the text that are classified as identifiers. -/
theorem classify_of_mem_names {text name : String}
    (member : name ∈ (scan settings text).gathered.identifiers.names) :
    settings.grammar.classify name = .identifier := by
  rw [gathered_of_scan] at member
  rcases mem_names_readPieces member with none | ⟨piece, -, own⟩
  · cases none
  · cases piece with
    | gap text => cases own
    | lexeme category word =>
      obtain ⟨⟨found, plain⟩, same⟩ := Option.ite_none_right_eq_some.mp own
      rw [finalCategory, if_pos found] at plain
      rw [← Option.some.inj same, plain]

theorem classifyWord_eq_identifier_iff (word : String) :
    classifyWord word = .identifier ↔ word ∉ datatypeNames ∧ word ∉ reservedWords := by
  unfold classifyWord
  by_cases datatype : word ∈ datatypeNames
  · simp [datatype]
  · by_cases reserved : word ∈ reservedWords <;> simp [datatype, reserved]

end Words

end LexReport.Scan
