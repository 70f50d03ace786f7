import LexReport.Proofs.Scan.Composition
import LexReport.Proofs.Scan.Step

/-! The lexemes of the tokens, printed with a blank between each two of them, are scanned to the
same tokens. -/

set_option autoImplicit false

namespace LexReport.Scan

open Text

section Blanks

variable {category other : Category} {before : Option Char} {lexeme after : List Char}

def mayHoldBlank : Category → Bool
  | .comment | .preprocessor | .stringLiteral | .charLiteral | .whitespace => true
  | _ => false

theorem blank_not_mem {category : Category} (closed : mayHoldBlank category = false)
    {lexeme : List Char} (spells : Spells category lexeme) : ' ' ∉ lexeme := by
  intro blank
  cases category
  case datatype | keyword | identifier => exact absurd (spells.2.1 ' ' blank) (by decide)
  case constant =>
    obtain ⟨whole, whole_digits, rfl | ⟨digits, digital, rfl⟩⟩ := spells
    · exact absurd (whole_digits.2 ' ' blank) (by decide)
    · rw [List.mem_append, List.mem_cons] at blank
      rcases blank with blank | point | blank
      · exact absurd (whole_digits.2 ' ' blank) (by decide)
      · exact absurd point (by decide)
      · exact absurd (digital.2 ' ' blank) (by decide)
  case relational =>
    rcases spells with ⟨c, member, rfl⟩ | ⟨c, member, rfl⟩
    · obtain rfl : ' ' = c := by simpa using blank
      exact absurd member (by decide)
    · obtain rfl : ' ' = c := by simpa using blank
      exact absurd member (by decide)
  case arithmetic | roundBracket | curlyBracket | separator =>
    obtain ⟨c, member, rfl⟩ := spells
    obtain rfl : ' ' = c := by simpa using blank
    exact absurd member (by decide)
  case atSign | increment | decrement | assignment | newline =>
    obtain rfl := spells
    exact absurd blank (by decide)
  all_goals contradiction

theorem kept_of_head : ∀ category ∈ Category.all, category.isSuppressed = false →
    (leads category '/' = true → category = .arithmetic) ∧
    (leads category '#' = true → category = .preprocessor) ∧
    (leads category '"' = true → category = .stringLiteral) ∧
    (leads category '\'' = true → category = .charLiteral) ∧
    leads category ' ' = false ∧ leads category '\t' = false := by
  decide

/-- A token begins like a lexeme that may have a blank inside only if it is of the same category, or
is the slash of a division. -/
theorem leads_unique (holding : mayHoldBlank other = true) (kept : category.isSuppressed = false)
    {c : Char} (leading : leads category c = true) (otherLeading : leads other c = true) :
    category = other ∨ other = .comment ∧ category = .arithmetic := by
  obtain ⟨slash, hash, quote, apostrophe, blank, tab⟩ :=
    kept_of_head category (Category.mem_all category) kept
  cases other
  case comment =>
    obtain rfl : c = '/' := beq_iff_eq.mp otherLeading
    exact .inr ⟨rfl, slash leading⟩
  case preprocessor =>
    obtain rfl : c = '#' := beq_iff_eq.mp otherLeading
    exact .inl (hash leading)
  case stringLiteral =>
    obtain rfl : c = '"' := beq_iff_eq.mp otherLeading
    exact .inl (quote leading)
  case charLiteral =>
    obtain rfl : c = '\'' := beq_iff_eq.mp otherLeading
    exact .inl (apostrophe leading)
  case whitespace =>
    have blankOrTab : c = ' ' ∨ c = '\t' := by simpa [leads] using otherLeading
    rcases blankOrTab with rfl | rfl
    · rw [blank] at leading
      contradiction
    · rw [tab] at leading
      contradiction
  all_goals contradiction

theorem not_insideWord_of_blank (before : Option Char) (after : List Char) :
    ¬ InsideWord before (' ' :: after) := by
  rintro ⟨-, follows⟩
  exact absurd follows (by show ¬ isWordChar ' ' = true; decide)

/-- No other rule reads beyond a token and the blank after it. -/
theorem Reads.stops_at_blank {otherLexeme otherAfter : List Char}
    (reads : Reads category none lexeme []) (kept : category.isSuppressed = false)
    (others : Reads other before otherLexeme otherAfter)
    (same : lexeme ++ ' ' :: after = otherLexeme ++ otherAfter) :
    other = category ∨ ∃ between, lexeme = otherLexeme ++ between := by
  rcases List.append_eq_append_iff.mp same with ⟨between, longer, rest⟩ | ⟨between, shorter, -⟩
  · -- A lexeme that reaches beyond the token holds the blank.
    cases between with
    | nil => exact .inr ⟨[], by simp [longer]⟩
    | cons c between =>
      obtain ⟨rfl, -⟩ := List.cons.inj rest
      have holding : mayHoldBlank other = true := by
        by_contra closed
        apply blank_not_mem (Bool.not_eq_true _ ▸ closed) others.spells
        rw [longer]
        simp
      obtain ⟨c, starts, leading⟩ := reads.starts
      obtain ⟨d, otherStarts, otherLeading⟩ := others.starts
      rw [longer, List.head?_append_of_ne_nil _ reads.filled, starts] at otherStarts
      obtain rfl := Option.some.inj otherStarts
      obtain rfl | ⟨rfl, rfl⟩ := leads_unique holding kept leading otherLeading
      · exact .inl rfl
      · -- A slash and a blank open no comment.
        obtain ⟨c, -, rfl⟩ := reads.spells
        rcases others.spells with ⟨body, opened, -⟩ | ⟨body, opened, -⟩ <;> simp [opened] at longer
  · exact .inr ⟨between, shorter⟩

theorem Reads.before_blank (reads : Reads category before lexeme [])
    (kept : category.isSuppressed = false) (after : List Char) :
    Reads category before lexeme (' ' :: after) := by
  refine ⟨reads.spells, reads.opens, ?_⟩
  have closes : closesWord (' ' :: after) = true := by
    show (!isWordChar ' ') = true
    decide
  cases category
  case datatype | keyword | identifier => exact closes
  case constant =>
    refine ⟨closes, fun _ fraction => ?_⟩
    obtain ⟨digits, rest, same, -⟩ := fraction
    exact absurd (List.cons.inj same).1 (by decide)
  case relational => exact fun _ => by simp
  case comment | whitespace => contradiction
  all_goals exact trivial

theorem Takes.alone {rules : List Category} (taken : Takes rules before category lexeme after) :
    Takes rules none category lexeme [] := by
  have border : ¬ InsideWord (lexeme ++ []).getLast? after := by
    rw [List.append_nil]
    exact taken.reads.not_insideWord_after
  have cut : Takes rules before category lexeme [] := taken.shortened border
  exact cut.behind fun inside => Bool.false_ne_true inside.1

/-- What is a token by itself is the same token before a blank. -/
theorem Takes.before_blank {rules : List Category} (taken : Takes rules none category lexeme [])
    (kept : category.isSuppressed = false) (after : List Char) :
    Takes rules none category lexeme (' ' :: after) := by
  obtain ⟨reads, earlier, later, same, noEarlier⟩ := taken
  refine ⟨reads.before_blank kept after, earlier, later, same, ?_⟩
  intro other member otherLexeme otherAfter cut others
  -- An earlier rule that reads before the blank would read in the token alone.
  obtain rfl | ⟨between, shorter⟩ := reads.stops_at_blank kept others cut
  · exact noEarlier _ member lexeme [] rfl reads
  · subst shorter
    rw [List.append_assoc, List.append_cancel_left_eq] at cut
    rw [← cut] at others
    exact noEarlier other member otherLexeme between (List.append_nil _)
      (others.shortened (not_insideWord_of_blank _ after))

theorem takes_blank (before : Option Char) {lexeme : List Char}
    (stop : lexeme.head?.any (fun c => c == ' ' || c == '\t') = false) :
    Takes Category.all before .whitespace [' '] lexeme := by
  refine ⟨⟨⟨by simp, by simp⟩, trivial, stop⟩, Category.all.take 17, [.newline], rfl, ?_⟩
  exact unmatched_of_leads (by decide) before lexeme

end Blanks

section Spaced

/-- Lexemes as pieces, with a blank between each two of them. -/
def spaced : List (Category × List Char) → List Piece
  | [] => []
  | [only] => [.lexeme only.1 only.2]
  | first :: second :: rest =>
    .lexeme first.1 first.2 :: .lexeme .whitespace [' '] :: spaced (second :: rest)

/-- What is a token by itself. -/
structure IsToken (lexeme : Category × List Char) : Prop where
  kept : lexeme.1.isSuppressed = false
  taken : Takes Category.all none lexeme.1 lexeme.2 []

theorem joined_spaced (lexemes : List (Category × List Char)) :
    joined (spaced lexemes) = [' '].intercalate (lexemes.map Prod.snd) := by
  induction lexemes using spaced.induct with
  | case1 => rfl
  | case2 only => simp [spaced, Piece.text]
  | case3 first second rest ih =>
    rw [spaced, joined_cons, joined_cons, ih]
    rfl

theorem IsToken.not_blank {lexeme : Category × List Char} (token : IsToken lexeme)
    (after : List Char) :
    (lexeme.2 ++ after).head?.any (fun c => c == ' ' || c == '\t') = false := by
  obtain ⟨c, starts, leading⟩ := token.taken.reads.starts
  obtain ⟨-, -, -, -, blank, tab⟩ := kept_of_head lexeme.1 (Category.mem_all _) token.kept
  rw [List.head?_append_of_ne_nil _ token.taken.filled, starts, Option.any_some,
    Bool.or_eq_false_iff, beq_eq_false_iff_ne, beq_eq_false_iff_ne]
  constructor
  · rintro rfl
    rw [blank] at leading
    contradiction
  · rintro rfl
    rw [tab] at leading
    contradiction

theorem not_insideWord_of_apart {before : Option Char} (apart : before.any isWordChar = false)
    (rest : List Char) : ¬ InsideWord before rest := by
  rintro ⟨inside, -⟩
  rw [apart] at inside
  contradiction

theorem cut_spaced {lexemes : List (Category × List Char)}
    (tokens : ∀ lexeme ∈ lexemes, IsToken lexeme) {before : Option Char}
    (apart : before.any isWordChar = false) : Cut Category.all before (spaced lexemes) := by
  induction lexemes using spaced.induct generalizing before with
  | case1 => exact .ends before
  | case2 only =>
    have token := tokens only List.mem_cons_self
    exact .lexeme (token.taken.behind (not_insideWord_of_apart apart _)) (.ends _)
  | case3 first second rest ih =>
    obtain ⟨token, others⟩ := List.forall_mem_cons.mp tokens
    have next : ∃ after, joined (spaced (second :: rest)) = second.2 ++ after := by
      cases rest <;> exact ⟨_, rfl⟩
    obtain ⟨after, same⟩ := next
    have stop := (others second List.mem_cons_self).not_blank after
    rw [← same] at stop
    -- Behind a blank a token is read as at the start of a text.
    refine .lexeme ?_ (.lexeme (takes_blank _ stop) (ih others (by decide)))
    exact (token.taken.before_blank token.kept _).behind (not_insideWord_of_apart apart _)

theorem pieces_spaced {lexemes : List (Category × List Char)}
    (tokens : ∀ lexeme ∈ lexemes, IsToken lexeme) :
    pieces Category.all (joined (spaced lexemes)) = spaced lexemes :=
  pieces_eq_iff.mpr ⟨rfl, cut_spaced tokens rfl⟩

end Spaced

section Kept

def keptOf (pieces : List Piece) : List (Category × List Char) :=
  pieces.filterMap fun
    | .gap _ => none
    | .lexeme category text => if category.isSuppressed then none else some (category, text)

theorem keptOf_cons_kept {category : Category} (kept : category.isSuppressed = false)
    (text : List Char) (rest : List Piece) :
    keptOf (.lexeme category text :: rest) = (category, text) :: keptOf rest := by
  simp [keptOf, kept]

theorem keptOf_cons_suppressed {category : Category} (suppressed : category.isSuppressed = true)
    (text : List Char) (rest : List Piece) :
    keptOf (.lexeme category text :: rest) = keptOf rest := by
  simp [keptOf, suppressed]

theorem keptOf_spaced {lexemes : List (Category × List Char)}
    (tokens : ∀ lexeme ∈ lexemes, IsToken lexeme) : keptOf (spaced lexemes) = lexemes := by
  induction lexemes using spaced.induct with
  | case1 => rfl
  | case2 only =>
    rw [spaced, keptOf_cons_kept (tokens only List.mem_cons_self).kept]
    rfl
  | case3 first second rest ih =>
    obtain ⟨token, others⟩ := List.forall_mem_cons.mp tokens
    rw [spaced, keptOf_cons_kept token.kept, keptOf_cons_suppressed rfl, ih others]

theorem Cut.isToken {before : Option Char} {pieces : List Piece}
    (cut : Cut Category.all before pieces) : ∀ lexeme ∈ keptOf pieces, IsToken lexeme := by
  induction cut with
  | ends => simp [keptOf]
  | @lexeme before category text rest taken goesOn ih =>
    cases kept : category.isSuppressed with
    | true =>
      rw [keptOf_cons_suppressed kept]
      exact ih
    | false =>
      rw [keptOf_cons_kept kept]
      exact List.forall_mem_cons.mpr ⟨⟨kept, taken.alone⟩, ih⟩
  | gap filled skipped alone goesOn ih => exact ih

theorem finalCategory_isSuppressed (category : Category) (text : List Char) :
    (finalCategory .standard category text).isSuppressed = category.isSuppressed := by
  unfold finalCategory
  split
  · rename_i word
    subst word
    show (classifyWord (String.ofList text)).isSuppressed = false
    unfold classifyWord
    split
    · rfl
    · split <;> rfl
  · rfl

def pairOf (lexeme : Category × List Char) : Category × String :=
  (finalCategory .standard lexeme.1 lexeme.2, String.ofList lexeme.2)

theorem tokensOf_pairs (place : Source.Position) (pieces : List Piece) :
    (tokensOf .standard place pieces).map Token.pair = (keptOf pieces).map pairOf := by
  induction pieces generalizing place with
  | nil => rfl
  | cons piece rest ih =>
    rw [tokensOf_cons, List.map_append, ih]
    cases piece with
    | gap text => rfl
    | lexeme category text =>
      rw [token?_toList, finalCategory_isSuppressed]
      cases kept : category.isSuppressed with
      | true =>
        rw [keptOf_cons_suppressed kept]
        rfl
      | false =>
        rw [keptOf_cons_kept kept]
        rfl

theorem namesAfter_keptOf (names : List String) (pieces : List Piece) :
    namesAfter .standard names pieces =
      namesAfter .standard names ((keptOf pieces).map fun lexeme => .lexeme lexeme.1 lexeme.2) := by
  induction pieces generalizing names with
  | nil => rfl
  | cons piece rest ih =>
    rw [namesAfter_cons, ih]
    cases piece with
    | gap text => rfl
    | lexeme category text =>
      cases kept : category.isSuppressed with
      | true =>
        have noName : plainName? .standard (.lexeme category text) = none := by
          rw [plainName?, if_neg]
          rintro ⟨rfl, -⟩
          contradiction
        rw [noName, keptOf_cons_suppressed kept]
        rfl
      | false =>
        rw [keptOf_cons_kept kept, List.map_cons, namesAfter_cons]

theorem gapsOf_spaced (place : Source.Position) (lexemes : List (Category × List Char)) :
    gapsOf place (spaced lexemes) = [] := by
  induction lexemes using spaced.induct generalizing place with
  | case1 => rfl
  | case2 only => rfl
  | case3 first second rest ih =>
    rw [spaced, gapsOf_cons, gapsOf_cons, ih]
    rfl

theorem fits_spaced {limits : LexicalLimits} {lexemes : List (Category × List Char)}
    (fits : ∀ lexeme ∈ lexemes, Fits limits (.lexeme lexeme.1 lexeme.2)) :
    ∀ piece ∈ spaced lexemes, Fits limits piece := by
  induction lexemes using spaced.induct with
  | case1 => simp [spaced]
  | case2 only => simpa [spaced] using fits
  | case3 first second rest ih =>
    obtain ⟨fitsFirst, others⟩ := List.forall_mem_cons.mp fits
    rw [spaced, List.forall_mem_cons, List.forall_mem_cons]
    exact ⟨fitsFirst, fun _ => rfl, ih others⟩

theorem mem_of_mem_keptOf {pieces : List Piece} {lexeme : Category × List Char}
    (member : lexeme ∈ keptOf pieces) : Piece.lexeme lexeme.1 lexeme.2 ∈ pieces := by
  obtain ⟨piece, inside, made⟩ := List.mem_filterMap.mp member
  cases piece with
  | gap text => cases made
  | lexeme category text =>
    obtain ⟨-, same⟩ := Option.ite_none_left_eq_some.mp made
    obtain rfl := Option.some.inj same
    exact inside

end Kept

/-- The lexemes of some tokens, with a blank between each two of them. -/
def printed (tokens : List Token) : String :=
  " ".intercalate (tokens.map (·.lexeme))

theorem printed_toList {tokens : List Token} {lexemes : List (Category × List Char)}
    (same : tokens.map Token.pair = lexemes.map pairOf) :
    (printed tokens).toList = joined (spaced lexemes) := by
  have spelled : tokens.map (fun token => token.lexeme.toList) = lexemes.map Prod.snd := by
    have seconds := congrArg (List.map fun pair => pair.2.toList) same
    simpa [Token.pair, pairOf, Function.comp_def] using seconds
  rw [printed, String.toList_intercalate, List.map_map, joined_spaced, ← spelled]
  rfl

theorem scan_spaced {limits : Limits} {lexemes : List (Category × List Char)}
    (areTokens : ∀ lexeme ∈ lexemes, IsToken lexeme)
    (fits : ∀ lexeme ∈ lexemes, Fits limits.lexical (.lexeme lexeme.1 lexeme.2))
    (tokenRoom : lexemes.length ≤ limits.lexical.maxTokenCount)
    (nameRoom : (namesAfter .standard [] (spaced lexemes)).length ≤
      limits.symbols.maxPlainIdentifiers)
    {text : String} (cut : text.toList = joined (spaced lexemes)) (lexical : LexicalPreferences)
    (symbols : SymbolPreferences) (level : Notice.Level) :
    ∃ tokens, (scan ⟨limits, .standard, lexical, symbols, level⟩ text).tokens = .ok tokens ∧
      tokens.map Token.pair = lexemes.map pairOf ∧
      (scan ⟨limits, .standard, lexical, symbols, level⟩ text).gathered.gaps = #[] ∧
      (scan ⟨limits, .standard, lexical, symbols, level⟩ text).gathered.metrics.gaps = 0 ∧
      (scan ⟨limits, .standard, lexical, symbols, level⟩ text).gathered.identifiers.names =
        namesAfter .standard [] (spaced lexemes) := by
  have pairs : (tokensOf .standard .start (spaced lexemes)).map Token.pair =
      lexemes.map pairOf := by
    rw [tokensOf_pairs, keptOf_spaced areTokens]
  have sized : (tokensOf .standard .start (spaced lexemes)).length = lexemes.length := by
    have counted := congrArg List.length pairs
    rwa [List.length_map, List.length_map] at counted
  have found : pieces Category.all text.toList = spaced lexemes := by
    rw [cut, pieces_spaced areTokens]
  obtain ⟨after, done⟩ := readPieces_succeeds (.ofText text.toList)
    (sound_start ⟨limits, .standard, lexical, symbols, level⟩) (fits_spaced fits)
    (sized.trans_le tokenRoom) nameRoom (by simp [gapsOf_spaced])
  obtain ⟨run, -, -⟩ := readPieces_run (sound_start _) done
  -- The pieces are lexemes alone, so no gap is counted.
  obtain ⟨gaps, -, -⟩ := foldl_countPiece .standard lexical (spaced lexemes) .start {}
  rw [← found] at done
  obtain ⟨ok, gathered⟩ := scan_of_readPieces done
  rw [gathered]
  refine ⟨after.tokens.toList, ok, ?_, ?_, ?_, run.names⟩
  · rw [← pairs, run.tokens]
    rfl
  · rw [← Array.toList_eq_nil_iff, run.gaps, gapsOf_spaced, List.take_nil]
    rfl
  · rw [gapsOf_spaced] at gaps
    rw [run.metrics]
    exact gaps

/-- A text printed from the tokens of a scan is scanned to the same tokens and the same names, and
without a gap. -/
theorem scan_printed {limits : Limits} {lexical : LexicalPreferences}
    {symbols : SymbolPreferences} {level : Notice.Level} {text : String} {tokens : List Token}
    (ok : (scan ⟨limits, .standard, lexical, symbols, level⟩ text).tokens = .ok tokens) :
    ∃ again,
      (scan ⟨limits, .standard, lexical, symbols, level⟩ (printed tokens)).tokens = .ok again ∧
      again.map Token.pair = tokens.map Token.pair ∧
      (scan ⟨limits, .standard, lexical, symbols, level⟩ (printed tokens)).gathered.gaps = #[] ∧
      (scan ⟨limits, .standard, lexical, symbols, level⟩
        (printed tokens)).gathered.metrics.gaps = 0 ∧
      (scan ⟨limits, .standard, lexical, symbols, level⟩
        (printed tokens)).gathered.identifiers.names =
        (scan ⟨limits, .standard, lexical, symbols, level⟩ text).gathered.identifiers.names := by
  obtain ⟨after, done, rfl, gathered⟩ := scan_ok ok
  obtain ⟨run, sound, fits⟩ := readPieces_run (sound_start _) done
  have areTokens := (cut_pieces Category.all text.toList).isToken
  have pairs : after.tokens.toList.map Token.pair =
      (keptOf (pieces Category.all text.toList)).map pairOf := by
    rw [run.tokens]
    exact tokensOf_pairs .start _
  have names : namesAfter .standard [] (spaced (keptOf (pieces Category.all text.toList))) =
      after.gathered.identifiers.names := by
    rw [namesAfter_keptOf, keptOf_spaced areTokens, ← namesAfter_keptOf, run.names]
    rfl
  have sized : (keptOf (pieces Category.all text.toList)).length = after.tokens.size := by
    have counted := congrArg List.length pairs
    rw [List.length_map, List.length_map, Array.length_toList] at counted
    exact counted.symm
  -- The tokens and the names are those of the first scan, so there is room for them again.
  rw [pairs, gathered, ← names]
  exact scan_spaced areTokens (fun lexeme member => fits _ (mem_of_mem_keptOf member))
    (sized.trans_le sound.tokens) (names ▸ sound.names) (printed_toList pairs) lexical symbols
    level

theorem scan_printed_equals_signs :
    (scan {} (String.ofList ['1', '$', '=', '='])).tokens =
        .ok [⟨.constant, "1", ⟨0, 1, 1⟩, ⟨1, 1, 2⟩⟩, ⟨.assignment, "=", ⟨2, 1, 3⟩, ⟨3, 1, 4⟩⟩,
          ⟨.assignment, "=", ⟨3, 1, 4⟩, ⟨4, 1, 5⟩⟩] ∧
      ∃ again, (scan {} (printed [⟨.constant, "1", ⟨0, 1, 1⟩, ⟨1, 1, 2⟩⟩,
          ⟨.assignment, "=", ⟨2, 1, 3⟩, ⟨3, 1, 4⟩⟩,
          ⟨.assignment, "=", ⟨3, 1, 4⟩, ⟨4, 1, 5⟩⟩])).tokens = .ok again ∧
        again.map Token.pair = [(.constant, "1"), (.assignment, "="), (.assignment, "=")] := by
  have cut : pieces Category.all ['1', '$', '=', '='] =
      [.lexeme .constant ['1'], .gap ['$'], .lexeme .assignment ['='],
        .lexeme .assignment ['=']] := by
    decide +kernel
  have ok : (scan {} (String.ofList ['1', '$', '=', '='])).tokens =
      .ok [⟨.constant, "1", ⟨0, 1, 1⟩, ⟨1, 1, 2⟩⟩, ⟨.assignment, "=", ⟨2, 1, 3⟩, ⟨3, 1, 4⟩⟩,
        ⟨.assignment, "=", ⟨3, 1, 4⟩, ⟨4, 1, 5⟩⟩] := by
    unfold scan
    rw [String.toList_ofList]
    dsimp only [Grammar.standard]
    rw [cut]
    rfl
  obtain ⟨again, okAgain, pairs, -⟩ := scan_printed ok
  exact ⟨ok, again, okAgain, pairs⟩

end LexReport.Scan
