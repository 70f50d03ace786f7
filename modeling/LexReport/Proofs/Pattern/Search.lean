import LexReport.Proofs.Pattern.Measured
import LexReport.Proofs.Scan.Pieces

/-! A search with all the rules as one pattern finds what the scan finds, rule by rule. -/

set_option autoImplicit false

namespace LexReport.Scan

open Text Pattern

section Captured

theorem name_injective {category other : Category} (same : category.name = other.name) :
    category = other := by
  have found := Category.ofName?_name category
  rw [same, Category.ofName?_name] at found
  exact (Option.some.inj found).symm

/-- A match in which one group took part is a match of the rule of its name. -/
theorem matchedRule?_single {rules : List Category} {category : Category}
    (member : category ∈ rules) (first last : Nat) :
    matchedRule? rules [⟨category.name, first, last⟩] = some (category, first, last) := by
  unfold matchedRule?
  induction rules with
  | nil => cases member
  | cons other rules ih =>
    rw [List.findSome?_cons]
    by_cases same : category = other
    · subst same
      simp
    · have differ : ¬ category.name = other.name := fun equal => same (name_injective equal)
      simpa [differ] using ih (List.mem_of_ne_of_mem same member)

end Captured

section Combined

variable {first : Category} {others : List Category}

theorem attempt_namedPattern (category : Category) (cursor : Cursor) :
    (namedPattern category).attempt cursor some =
      (extent? category cursor.before cursor.rest).map
        fun length => (cursor.forward length).capture category.name cursor.offset :=
  attempt_pattern category cursor fun stop => stop.capture category.name cursor.offset

theorem match?_combinedPattern (cursor : Cursor) :
    (combinedPattern (first :: others)).match? cursor =
      (firstMatch? (first :: others) cursor.before cursor.rest).map fun found =>
        (cursor.forward found.2).capture found.1.name cursor.offset := by
  rw [match?, combinedPattern, attempt_ofChoices, ← List.map_cons, List.findSome?_map, firstMatch?,
    List.map_findSome?]
  congr 1
  funext category
  rw [Function.comp_apply, attempt_namedPattern, Function.comp_apply, Option.map_map]
  rfl

theorem matchesFrom_takes {category : Category} {seen lexeme after : List Char}
    (takes : Takes (first :: others) seen.head? category lexeme after) (justEnded : Bool) :
    (combinedPattern (first :: others)).matchesFrom justEnded seen (lexeme ++ after) =
      [⟨category.name, byteSize seen, byteSize seen + byteSize lexeme⟩] ::
        (combinedPattern (first :: others)).matchesFrom true (lexeme.reverse ++ seen) after := by
  have found := firstMatch?_complete takes
  have matched : (combinedPattern (first :: others)).match? ⟨seen, lexeme ++ after, []⟩ =
      some (Cursor.capture ⟨lexeme.reverse ++ seen, after, []⟩ category.name (byteSize seen)) := by
    rw [match?_combinedPattern, Cursor.before, found, Option.map_some, Cursor.forward_append]
    rfl
  rw [matchesFrom.eq_def, matched]
  -- A lexeme is not empty, so it counts even where another match has just ended.
  refine (dif_pos takes.shorter).trans ?_
  simp [Cursor.capture, Cursor.offset, Nat.add_comm]

theorem match?_of_unmatched {seen rest : List Char}
    (unmatched : Unmatched (first :: others) seen.head? rest) :
    (combinedPattern (first :: others)).match? ⟨seen, rest, []⟩ = none := by
  rw [match?_combinedPattern, Cursor.before, firstMatch?_eq_none_iff.mpr unmatched, Option.map_none]

theorem matchesFrom_nil (seen : List Char) (justEnded : Bool) :
    (combinedPattern (first :: others)).matchesFrom justEnded seen [] = [] := by
  rw [matchesFrom.eq_def, match?_of_unmatched (unmatched_nil _ _)]

theorem matchesFrom_skips {seen rest : List Char} {c : Char}
    (unmatched : Unmatched (first :: others) seen.head? (c :: rest)) (justEnded : Bool) :
    (combinedPattern (first :: others)).matchesFrom justEnded seen (c :: rest) =
      (combinedPattern (first :: others)).matchesFrom false (c :: seen) rest := by
  rw [matchesFrom.eq_def, match?_of_unmatched unmatched]

theorem finds_matchesFrom (seen rest : List Char) (justEnded : Bool) :
    Finds (first :: others) seen.head? (byteSize seen) rest
      (((combinedPattern (first :: others)).matchesFrom justEnded seen rest).filterMap
        (matchedRule? (first :: others))) := by
  -- The induction is on the length of the text: a match leaves a shorter one.
  induction length : rest.length using Nat.strong_induction_on generalizing seen rest justEnded with
  | _ bound ih =>
    subst length
    cases found : firstMatch? (first :: others) seen.head? rest with
    | some match_ =>
      obtain ⟨category, length⟩ := match_
      obtain ⟨lexeme, after, rfl, -, takes⟩ := firstMatch?_sound found
      have further := ih _ takes.shorter (lexeme.reverse ++ seen) after true rfl
      have last : (lexeme.reverse ++ seen).head? = lexeme.getLast? := by
        rw [List.head?_append, List.head?_reverse, List.getLast?_eq_some_getLast takes.filled,
          Option.some_or]
      rw [matchesFrom_takes takes, List.filterMap_cons_some (matchedRule?_single takes.member _ _)]
      rw [last, byteSize_append, byteSize_reverse, Nat.add_comm] at further
      exact .takes rfl takes further
    | none =>
      cases rest with
      | nil =>
        rw [matchesFrom_nil]
        exact .ends _ _
      | cons c rest =>
        have unmatched := firstMatch?_eq_none_iff.mp found
        have further := ih _ (Nat.lt_succ_self _) (c :: seen) rest false rfl
        rw [byteSize_cons, Nat.add_comm] at further
        rw [matchesFrom_skips unmatched]
        exact .skips unmatched further

end Combined

/-- What the rules as one pattern match in a text, in order: the rule, and the ends of the match as
byte offsets. -/
def matchedRules (rules : List Category) (text : List Char) : List (Category × Nat × Nat) :=
  ((combinedPattern rules).allMatches text).filterMap (matchedRule? rules)

theorem finds_matchedRules (text : List Char) :
    Finds Category.all none 0 text (matchedRules Category.all text) :=
  finds_matchesFrom [] text false

/-- The matches of all the rules as one pattern, with backtracking, are what one course through the
text finds, and they are the lexemes among its pieces. -/
theorem matchedRules_eq_iff_finds (text : List Char) :
    (∀ found, matchedRules Category.all text = found ↔ Finds Category.all none 0 text found) ∧
      matchedRules Category.all text = foundIn text := by
  constructor
  · intro found
    constructor
    · rintro rfl
      exact finds_matchedRules text
    · exact (finds_matchedRules text).unique
  · exact (finds_matchedRules text).unique (finds_foundIn text)

end LexReport.Scan
