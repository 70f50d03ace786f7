import LexReport.Proofs.Scan.Emitted
import LexReport.Proofs.Scan.Tally

/-! The metrics of a scan are a recount: they follow from what is taken of the text and from its
gaps, and, where these tell, from the tokens alone. -/

set_option autoImplicit false

namespace LexReport.Scan

section Taken

variable (grammar : Grammar)

/-- What is taken of some pieces: the lexemes under their final categories, those that are left out
of the tokens included. -/
def takenOf (pieces : List Piece) : List (Category × String) :=
  pieces.filterMap fun
    | .gap _ => none
    | .lexeme category text => some (finalCategory grammar category text, String.ofList text)

def skippedOf (pieces : List Piece) : List (List Char) :=
  pieces.filterMap fun
    | .gap text => some text
    | .lexeme _ _ => none

theorem takenOf_cons_lexeme (category : Category) (text : List Char) (rest : List Piece) :
    takenOf grammar (.lexeme category text :: rest) =
      (finalCategory grammar category text, String.ofList text) :: takenOf grammar rest := rfl

theorem takenOf_cons_gap (text : List Char) (rest : List Piece) :
    takenOf grammar (.gap text :: rest) = takenOf grammar rest := rfl

theorem skippedOf_cons_lexeme (category : Category) (text : List Char) (rest : List Piece) :
    skippedOf (.lexeme category text :: rest) = skippedOf rest := rfl

theorem skippedOf_cons_gap (text : List Char) (rest : List Piece) :
    skippedOf (.gap text :: rest) = text :: skippedOf rest := rfl

theorem pairs_of_taken (place : Source.Position) (pieces : List Piece) :
    (tokensOf grammar place pieces).map Token.pair =
      (takenOf grammar pieces).filter fun entry => !entry.1.isSuppressed := by
  induction pieces generalizing place with
  | nil => rfl
  | cons piece rest ih =>
    rw [tokensOf_cons, List.map_append, ih]
    cases piece with
    | gap text => rfl
    | lexeme category text =>
      rw [token?_toList, takenOf_cons_lexeme, List.filter_cons]
      cases (finalCategory grammar category text).isSuppressed <;> rfl

end Taken

section Recount

variable (grammar : Grammar) (preferences : LexicalPreferences)

def largestSize (texts : List String) : Nat := (texts.map String.utf8ByteSize).max?.getD 0

theorem largestSize_append_singleton (texts : List String) (text : String) :
    largestSize (texts ++ [text]) = max (largestSize texts) text.utf8ByteSize := by
  have folded (texts : List String) :
      largestSize texts = (texts.map String.utf8ByteSize).foldl max 0 := by
    rw [List.foldl_max, Nat.zero_max, largestSize]
  rw [folded, folded, List.map_append, List.foldl_append]
  rfl

def lexemesOf (wanted : Category → Bool) (taken : List (Category × String)) : List String :=
  (taken.filter fun entry => wanted entry.1).map Prod.snd

theorem lexemesOf_append_singleton (wanted : Category → Bool) (taken : List (Category × String))
    (category : Category) (lexeme : String) :
    lexemesOf wanted (taken ++ [(category, lexeme)]) =
      if wanted category then lexemesOf wanted taken ++ [lexeme] else lexemesOf wanted taken := by
  rw [lexemesOf, List.filter_append, List.map_append, List.filter_singleton]
  dsimp only
  cases wanted category with
  | true => rfl
  | false => exact List.append_nil _

theorem length_lexemesOf_append_singleton (wanted : Category → Bool)
    (taken : List (Category × String)) (category : Category) (lexeme : String) :
    (lexemesOf wanted (taken ++ [(category, lexeme)])).length =
      (lexemesOf wanted taken).length + if wanted category then 1 else 0 := by
  rw [lexemesOf_append_singleton]
  split
  · exact List.length_append
  · rfl

theorem largestSize_lexemesOf_append_singleton (wanted : Category → Bool)
    (taken : List (Category × String)) (category : Category) (lexeme : String) :
    largestSize (lexemesOf wanted (taken ++ [(category, lexeme)])) =
      if wanted category then max (largestSize (lexemesOf wanted taken)) lexeme.utf8ByteSize
      else largestSize (lexemesOf wanted taken) := by
  rw [lexemesOf_append_singleton]
  split
  · exact largestSize_append_singleton _ _
  · rfl

def recounted (taken : List (Category × String)) (skipped : List (List Char)) : Metrics where
  tokens := (lexemesOf (!·.isSuppressed) taken).length
  datatypes := (lexemesOf (· == .datatype) taken).length
  keywords := (lexemesOf (· == .keyword) taken).length
  identifiers := (lexemesOf (· == .identifier) taken).length
  operators := (lexemesOf Category.isOperator taken).length
  literals := (lexemesOf (·.kind == .literal) taken).length
  suppressed := (lexemesOf Category.isSuppressed taken).length
  comments := (lexemesOf (· == .comment) taken).length
  longestComment := largestSize (lexemesOf (· == .comment) taken)
  longestString := largestSize (lexemesOf (· == .stringLiteral) taken)
  gaps := skipped.length
  gapChars := skipped.flatten.length
  byCategory := if preferences.collectDetails then .ofKeys (taken.map Prod.fst) else []
  byOperator :=
    if preferences.trackOperators then .ofKeys (lexemesOf Category.isOperator taken) else []

theorem recounted_addMatch (taken : List (Category × String)) (skipped : List (List Char))
    (category : Category) (lexeme : String) :
    (recounted preferences taken skipped).addMatch preferences category lexeme =
      recounted preferences (taken ++ [(category, lexeme)]) skipped := by
  -- The tallies are what preferences decide about, so each is compared by cases on its preference.
  have categories : (recounted preferences (taken ++ [(category, lexeme)]) skipped).byCategory =
      if preferences.collectDetails then
        (recounted preferences taken skipped).byCategory.add category
      else (recounted preferences taken skipped).byCategory := by
    dsimp only [recounted]
    split
    · rw [List.map_append]
      exact Tally.ofKeys_append_singleton _ _
    · rfl
  have operators : (recounted preferences (taken ++ [(category, lexeme)]) skipped).byOperator =
      if preferences.trackOperators && category.isOperator then
        (recounted preferences taken skipped).byOperator.add lexeme
      else (recounted preferences taken skipped).byOperator := by
    dsimp only [recounted]
    rw [lexemesOf_append_singleton]
    cases preferences.trackOperators with
    | true =>
      cases category.isOperator with
      | true => exact Tally.ofKeys_append_singleton _ _
      | false => rfl
    | false => rfl
  rw [addMatch_eq, ← categories, ← operators]
  simp only [recounted, length_lexemesOf_append_singleton, largestSize_lexemesOf_append_singleton]

theorem recounted_addGap (taken : List (Category × String)) (skipped : List (List Char))
    (text : List Char) :
    (recounted preferences taken skipped).addGap text =
      recounted preferences taken (skipped ++ [text]) := by
  simp [Metrics.addGap, recounted]

theorem foldl_countPiece_recounted (pieces : List Piece) (taken : List (Category × String))
    (skipped : List (List Char)) :
    pieces.foldl (countPiece grammar preferences) (recounted preferences taken skipped) =
      recounted preferences (taken ++ takenOf grammar pieces) (skipped ++ skippedOf pieces) := by
  induction pieces generalizing taken skipped with
  | nil => simp [takenOf, skippedOf]
  | cons piece rest ih =>
    rw [List.foldl_cons]
    cases piece with
    | gap text =>
      rw [countPiece, recounted_addGap, ih, takenOf_cons_gap, skippedOf_cons_gap,
        List.append_assoc, List.singleton_append]
    | lexeme category text =>
      rw [countPiece, recounted_addMatch, ih, takenOf_cons_lexeme, skippedOf_cons_lexeme,
        List.append_assoc, List.singleton_append]

/-- The metrics of a scan that ends well count what was taken of its text and what was skipped. -/
theorem metrics_of_scan {settings : Settings} {text : String} {tokens : List Token}
    (ok : (scan settings text).tokens = .ok tokens) :
    (scan settings text).gathered.metrics =
      recounted settings.lexical
        (takenOf settings.grammar (pieces settings.grammar.rules text.toList))
        (skippedOf (pieces settings.grammar.rules text.toList)) := by
  obtain ⟨after, done, -, gathered⟩ := scan_ok ok
  obtain ⟨run, -, -⟩ := readPieces_run (sound_start settings) done
  have nothing : recounted settings.lexical [] [] = {} := by
    unfold recounted
    split <;> split <;> rfl
  rw [gathered, run.metrics]
  exact nothing ▸ foldl_countPiece_recounted settings.grammar settings.lexical _ [] []

end Recount

section Summary

variable {taken : List (Category × String)} {tokens : List Token}

def AreKept (taken : List (Category × String)) (tokens : List Token) : Prop :=
  tokens.map Token.pair = taken.filter fun entry => !entry.1.isSuppressed

theorem AreKept.kept (same : AreKept taken tokens) :
    ∀ token ∈ tokens, token.category.isSuppressed = false := by
  intro token member
  have among : token.pair ∈ taken.filter fun entry => !entry.1.isSuppressed :=
    same ▸ List.mem_map_of_mem member
  exact (Bool.not_eq_true' _).mp (List.mem_filter.mp among).2

theorem AreKept.lexemesOf (same : AreKept taken tokens) {wanted : Category → Bool}
    (kept : ∀ category, wanted category = true → category.isSuppressed = false) :
    lexemesOf wanted taken =
      (tokens.filter fun token => wanted token.category).map Token.lexeme := by
  have again : (taken.filter fun entry => !entry.1.isSuppressed).filter
      (fun entry => wanted entry.1) = taken.filter fun entry => wanted entry.1 := by
    rw [List.filter_filter]
    refine List.filter_congr fun entry _ => ?_
    cases isWanted : wanted entry.1 with
    | true => rw [kept _ isWanted]; rfl
    | false => rfl
  rw [Scan.lexemesOf, ← again, ← same, List.filter_map, List.map_map]
  rfl

theorem AreKept.length_lexemesOf (same : AreKept taken tokens) {wanted : Category → Bool}
    (kept : ∀ category, wanted category = true → category.isSuppressed = false) :
    (Scan.lexemesOf wanted taken).length = tokens.countP fun token => wanted token.category := by
  rw [same.lexemesOf kept, List.length_map, List.countP_eq_length_filter]

theorem kept_of_beq {category : Category} (kept : category.isSuppressed = false)
    (other : Category) (same : (other == category) = true) : other.isSuppressed = false := by
  rw [eq_of_beq same, kept]

/-- Besides the total, just one counter counts a token, or none if it is a directive, a bracket or
a separator. -/
theorem counted_once {category : Category} (kept : category.isSuppressed = false) :
    (if category == .datatype then 1 else 0) + (if category == .keyword then 1 else 0) +
      (if category == .identifier then 1 else 0) + (if category.kind == .literal then 1 else 0) +
      (if category.isOperator then 1 else 0) +
      (if decide (category ∈ [.preprocessor, .roundBracket, .curlyBracket, .separator]) then 1
        else 0) = 1 := by
  cases category <;> first | rfl | contradiction

theorem length_of_counts (kept : ∀ token ∈ tokens, token.category.isSuppressed = false) :
    (tokens.countP fun token => token.category == .datatype) +
      (tokens.countP fun token => token.category == .keyword) +
      (tokens.countP fun token => token.category == .identifier) +
      (tokens.countP fun token => token.category.kind == .literal) +
      (tokens.countP fun token => token.category.isOperator) +
      tokens.countP (·.category ∈ [.preprocessor, .roundBracket, .curlyBracket, .separator]) =
        tokens.length := by
  induction tokens with
  | nil => rfl
  | cons token rest ih =>
    obtain ⟨here, others⟩ := List.forall_mem_cons.mp kept
    have once := counted_once here
    have further := ih others
    simp only [List.countP_cons, List.length_cons]
    omega

theorem AreKept.countByCategory (same : AreKept taken tokens) {tally : Tally Category}
    (tells : tally.Tells (taken.map Prod.fst)) :
    ((tally.inOrder Category.all).filter fun entry => !entry.1.isSuppressed) =
      countByCategory tokens := by
  rw [tells.inOrder, LexReport.countByCategory, List.filter_filterMap]
  refine List.filterMap_congr fun category _ => ?_
  cases kept : category.isSuppressed with
  | true =>
    -- Of a category that is left out there is no token to count.
    have none : (tokens.countP fun token => token.category == category) = 0 := by
      rw [List.countP_eq_zero]
      intro token member isOfIt
      rw [← eq_of_beq isOfIt, same.kept token member] at kept
      contradiction
    rw [if_pos none]
    split <;> simp [kept]
  | false =>
    have counts : (tokens.countP fun token => token.category == category) =
        (taken.map Prod.fst).count category := by
      rw [← same.length_lexemesOf (kept_of_beq kept), Scan.lexemesOf, List.length_map,
        ← List.countP_eq_length_filter, List.count, List.countP_map]
      rfl
    dsimp only
    rw [counts]
    by_cases known : category ∈ taken.map Prod.fst
    · rw [if_pos known, if_neg (List.count_pos_iff.mpr known).ne', Option.filter_some]
      simp [kept]
    · rw [if_neg known, if_pos (List.count_eq_zero.mpr known), Option.filter_none]

/-- What metrics say of a scan, in terms of its tokens and, as comments and blanks are left out of
these, of what was taken of its text. -/
structure Summarizes (preferences : LexicalPreferences) (taken : List (Category × String))
    (tokens : List Token) (metrics : Metrics) : Prop where
  total : metrics.tokens = tokens.length
  datatypes : metrics.datatypes = tokens.countP (·.category = .datatype)
  keywords : metrics.keywords = tokens.countP (·.category = .keyword)
  identifiers : metrics.identifiers = tokens.countP (·.category = .identifier)
  literals : metrics.literals =
    tokens.countP (·.category ∈ [.constant, .stringLiteral, .charLiteral])
  operators : metrics.operators = tokens.countP (·.category.isOperator)
  whole : metrics.datatypes + metrics.keywords + metrics.identifiers + metrics.literals +
    metrics.operators +
    tokens.countP (·.category ∈ [.preprocessor, .roundBracket, .curlyBracket, .separator]) =
      metrics.tokens
  longestString : metrics.longestString =
    largestSize ((tokens.filter (·.category = .stringLiteral)).map Token.lexeme)
  longestComment : metrics.longestComment =
    largestSize ((taken.filter (·.1 = .comment)).map Prod.snd)
  /-- By category, each match is counted under its final one: -/
  categories : preferences.collectDetails = true → metrics.byCategory.Tells (taken.map Prod.fst)
  /-- so the tokens are counted as they are, -/
  kept : preferences.collectDetails = true →
    ((metrics.byCategory.inOrder Category.all).filter fun entry => !entry.1.isSuppressed) =
      countByCategory tokens
  /-- and what is left out of them sums to the matches that are, -/
  leftOut : preferences.collectDetails = true →
    metrics.byCategory.total Category.isSuppressed = metrics.suppressed
  /-- among them the comments. -/
  comments : preferences.collectDetails = true →
    metrics.byCategory.count .comment = metrics.comments
  /-- By operator, each use in the tokens is counted, -/
  uses : preferences.trackOperators = true →
    metrics.byOperator.Tells ((tokens.filter (·.category.isOperator)).map Token.lexeme)
  useTotal : preferences.trackOperators = true →
    (metrics.byOperator.map Prod.snd).sum = metrics.operators
  noDetails : preferences.collectDetails = false → metrics.byCategory = []
  noUses : preferences.trackOperators = false → metrics.byOperator = []

theorem AreKept.summarizes (same : AreKept taken tokens) (preferences : LexicalPreferences)
    (skipped : List (List Char)) :
    Summarizes preferences taken tokens (recounted preferences taken skipped) := by
  -- The kinds that are counted one by one are never suppressed: tokens and matches agree on them.
  have operator : ∀ category : Category,
      category.isOperator = true → category.isSuppressed = false := by
    intro category isOperator
    cases category <;> first | rfl | contradiction
  have literal : ∀ category : Category,
      (category.kind == .literal) = true → category.isSuppressed = false := by
    intro category isLiteral
    cases category <;> first | rfl | contradiction
  have total : (recounted preferences taken skipped).tokens = tokens.length := by
    show (Scan.lexemesOf _ taken).length = _
    rw [Scan.lexemesOf, ← same, List.length_map, List.length_map]
  have datatypes := same.length_lexemesOf (@kept_of_beq .datatype rfl)
  have keywords := same.length_lexemesOf (@kept_of_beq .keyword rfl)
  have identifiers := same.length_lexemesOf (@kept_of_beq .identifier rfl)
  have literals := same.length_lexemesOf literal
  have operators := same.length_lexemesOf operator
  have categories (wanted : preferences.collectDetails = true) :
      (recounted preferences taken skipped).byCategory.Tells (taken.map Prod.fst) := by
    dsimp only [recounted]
    rw [if_pos wanted]
    exact Tally.tells_ofKeys _
  have uses (wanted : preferences.trackOperators = true) :
      (recounted preferences taken skipped).byOperator.Tells
        ((tokens.filter (·.category.isOperator)).map Token.lexeme) := by
    dsimp only [recounted]
    rw [if_pos wanted, same.lexemesOf operator]
    exact Tally.tells_ofKeys _
  exact {
    total := total
    datatypes := datatypes
    keywords := keywords
    identifiers := identifiers
    literals := by
      refine literals.trans (List.countP_congr fun token _ => ?_)
      cases token.category <;> decide
    operators := operators
    whole := by
      rw [total, ← length_of_counts same.kept, ← datatypes, ← keywords, ← identifiers, ← literals,
        ← operators]
      rfl
    longestString := congrArg largestSize (same.lexemesOf (@kept_of_beq .stringLiteral rfl))
    longestComment := rfl
    categories := categories
    kept := fun wanted => same.countByCategory (categories wanted)
    leftOut := fun wanted => by
      rw [(categories wanted).total, List.countP_map, List.countP_eq_length_filter]
      exact (List.length_map _).symm
    comments := fun wanted => by
      rw [(categories wanted).count, List.count, List.countP_map, List.countP_eq_length_filter]
      exact (List.length_map _).symm
    uses := uses
    useTotal := fun wanted => by
      rw [(uses wanted).sum, List.length_map, ← List.countP_eq_length_filter]
      exact operators.symm
    noDetails := fun unwanted => by
      dsimp only [recounted]
      rw [unwanted]
      rfl
    noUses := fun unwanted => by
      dsimp only [recounted]
      rw [unwanted]
      rfl }

end Summary

/-- The metrics of every scan that ends well are a summary of it. -/
theorem summary_of_scan {settings : Settings} {text : String} {tokens : List Token}
    (ok : (scan settings text).tokens = .ok tokens) :
    Summarizes settings.lexical
      (takenOf settings.grammar (pieces settings.grammar.rules text.toList)) tokens
      (scan settings text).gathered.metrics := by
  have same : AreKept (takenOf settings.grammar (pieces settings.grammar.rules text.toList))
      tokens := by
    rw [(emitted_of_scan ok).1]
    exact pairs_of_taken settings.grammar .start _
  rw [metrics_of_scan ok]
  exact same.summarizes settings.lexical _

theorem summary_of_scan_for_comment :
    ∃ tokens,
      (scan { lexical := { trackOperators := true } }
        (String.ofList ['/', '/', 'c', '\n', '=', 'x', '"', 'é', '"', '$'])).tokens = .ok tokens ∧
      tokens.map Token.pair =
        [(.assignment, "="), (.identifier, "x"), (.stringLiteral, "\"é\"")] ∧
      Summarizes { trackOperators := true }
        [(.comment, "//c"), (.newline, "\n"), (.assignment, "="), (.identifier, "x"),
          (.stringLiteral, "\"é\"")] tokens
        { tokens := 3, identifiers := 1, operators := 1, literals := 1, suppressed := 2
          comments := 1, longestComment := 3, longestString := 4, gaps := 1, gapChars := 1
          byCategory := [(.comment, 1), (.newline, 1), (.assignment, 1), (.identifier, 1),
            (.stringLiteral, 1)]
          byOperator := [("=", 1)] } := by
  have cut : pieces Category.all
      (String.ofList ['/', '/', 'c', '\n', '=', 'x', '"', 'é', '"', '$']).toList =
        [.lexeme .comment ['/', '/', 'c'], .lexeme .newline ['\n'], .lexeme .assignment ['='],
          .lexeme .identifier ['x'], .lexeme .stringLiteral ['"', 'é', '"'], .gap ['$']] := by
    rw [String.toList_ofList]
    decide +kernel
  have ok := @scan_succeeds { lexical := { trackOperators := true } } _ _ cut (by decide)
    (by decide) (by decide) (by decide)
  have summary := summary_of_scan ok
  rw [metrics_of_scan ok] at summary
  dsimp only [Grammar.standard] at summary
  rw [cut] at summary
  exact ⟨_, ok, rfl, summary⟩

end LexReport.Scan
