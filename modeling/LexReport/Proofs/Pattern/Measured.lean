import LexReport.Proofs.Pattern.Backtracking

/-! Each rule in its written form reads what its measure says, and in only one way. -/

set_option autoImplicit false

namespace LexReport.Scan.Pattern

open Text

variable {α : Type} {next : Cursor → Option α}

section Words

theorem attempt_word {word : List Char} (filled : word ≠ [])
    (inside : ∀ c ∈ word, isWordChar c = true) (cursor : Cursor) :
    (if word <+: cursor.rest then wordBoundary.attempt (cursor.forward word.length) next
      else none) =
    if cursor.rest.takeWhile isWordChar = word then next (cursor.forward word.length)
      else none := by
  obtain ⟨seen, rest, captures⟩ := cursor
  by_cases starts : word <+: rest
  · obtain ⟨after, rfl⟩ := starts
    rw [if_pos (List.prefix_append _ _), Cursor.forward_append,
      attempt_wordBoundary_after (head?_reverse_isWordChar filled inside)]
    simp only [closesWord_append_iff inside]
  · have differ : rest.takeWhile isWordChar ≠ word := by
      rintro rfl
      exact starts (List.takeWhile_prefix _)
    simp [starts, differ]

def isWord (word : String) : Bool :=
  !word.toList.isEmpty && word.toList.all isWordChar

theorem isWord_iff {word : String} :
    isWord word = true ↔ word.toList ≠ [] ∧ ∀ c ∈ word.toList, isWordChar c = true := by
  rw [isWord, Bool.and_eq_true, Bool.not_eq_true', List.isEmpty_eq_false_iff, List.all_eq_true]

theorem attempt_anyWord_boundary {first : String} {others : List String}
    (spelled : (first :: others).all isWord = true)
    (cursor : Cursor) :
    ((anyWord (first :: others)).attempt cursor fun stop => wordBoundary.attempt stop next) =
      if (first :: others).contains (String.ofList (cursor.rest.takeWhile isWordChar)) then
        next (cursor.forward (cursor.rest.takeWhile isWordChar).length)
      else none := by
  rw [attempt_anyWord]
  generalize first :: others = words at spelled
  -- At most one word is the whole run, so the order in which the words are tried does not matter.
  induction words with
  | nil => rfl
  | cons word words ih =>
    rw [List.all_cons, Bool.and_eq_true, isWord_iff] at spelled
    obtain ⟨⟨filled, inside⟩, spelled⟩ := spelled
    rw [List.findSome?_cons, attempt_word filled inside, ih spelled, List.contains_cons]
    by_cases same : cursor.rest.takeWhile isWordChar = word.toList
    · rw [if_pos same, same, String.ofList_toList]
      cases next (cursor.forward word.toList.length) <;> simp
    · have differ : (String.ofList (cursor.rest.takeWhile isWordChar) == word) = false := by
        rw [beq_eq_false_iff_ne]
        rintro rfl
        exact same String.toList_ofList.symm
      rw [if_neg same, differ, Bool.false_or]

/-- A rule for words looks at the whole run of word characters, where a word may begin. -/
theorem attempt_wordBoundary_run {isWanted : List Char → Bool} {cursor : Cursor}
    {finish : Cursor → α}
    (found : next cursor =
      if !(cursor.rest.takeWhile isWordChar).isEmpty &&
          isWanted (cursor.rest.takeWhile isWordChar) then
        some (finish (cursor.forward (cursor.rest.takeWhile isWordChar).length))
      else none) :
    wordBoundary.attempt cursor next =
      (wordExtent? isWanted cursor.before cursor.rest).map
        fun length => finish (cursor.forward length) := by
  rw [attempt_wordBoundary_before, found, wordExtent?]
  · cases opensWord cursor.before with
    | false => rfl
    | true =>
      simp only [if_true]
      split <;> rfl
  · intro stop
    rw [found, takeWhile_of_stop stop]
    rfl

theorem attempt_words {first : String} {others : List String}
    (spelled : (first :: others).all isWord = true)
    (cursor : Cursor) (finish : Cursor → α) :
    (ofSequence [wordBoundary, anyWord (first :: others), wordBoundary]).attempt cursor
        (fun stop => some (finish stop)) =
      (wordExtent? (fun run => (first :: others).contains (String.ofList run)) cursor.before
        cursor.rest).map fun length => finish (cursor.forward length) := by
  have absent : (first :: others).contains (String.ofList []) = false := by
    rw [Bool.eq_false_iff, ne_eq, List.contains_iff_mem]
    intro member
    exact (isWord_iff.mp (List.all_eq_true.mp spelled _ member)).1 String.toList_ofList
  apply attempt_wordBoundary_run
  refine (attempt_anyWord_boundary spelled cursor).trans ?_
  cases cursor.rest.takeWhile isWordChar with
  | nil => rw [absent]; rfl
  | cons c run =>
    rw [List.isEmpty_cons, Bool.not_false, Bool.true_and]
    rfl

theorem holds_identifierStart (c : Char) :
    identifierStarts.holds c = isIdentifierStart c := by
  rw [isIdentifierStart_eq]
  -- The two sides only list the letters in another order.
  simp only [identifierStarts, CharSet.holds, List.any_cons, List.any_nil, SetMember.holds,
    Bool.or_false, Bool.decide_and]
  rw [← Bool.or_assoc, Bool.or_comm (_ && _) (_ && _)]
  rfl

theorem holds_identifierChar (c : Char) :
    identifierChars.holds c = isIdentifierChar c := by
  rw [isIdentifierChar_eq]
  simp only [identifierChars, CharSet.holds, List.any_cons, List.any_nil, SetMember.holds,
    Bool.or_false, Bool.decide_and]
  rw [← Bool.or_assoc, Bool.or_comm (_ && _) (_ && _), ← Bool.or_assoc]
  rfl

theorem attempt_identifier (cursor : Cursor) (finish : Cursor → α) :
    (pattern .identifier).attempt cursor (fun stop => some (finish stop)) =
      (wordExtent? isIdentifierWord cursor.before cursor.rest).map
        fun length => finish (cursor.forward length) := by
  apply attempt_wordBoundary_run
  obtain ⟨seen, rest, captures⟩ := cursor
  cases rest with
  | nil => rfl
  | cons c rest =>
    refine (attempt_char _ seen c rest captures).trans ?_
    rw [holds_identifierStart]
    by_cases starts : isIdentifierStart c = true
    · have word : isWordChar c = true :=
        isWordChar_of_isIdentifierChar (isIdentifierChar_of_isIdentifierStart starts)
      -- The run of identifier characters may end inside a word, whose other letters are not ASCII:
      -- then giving characters back does not help, since no boundary lies inside the run.
      obtain ⟨run, after, rfl, members, stop, -⟩ := run_split isIdentifierChar rest
      obtain ⟨wanted, taken⟩ := isIdentifierWord_run word members stop
      rw [if_pos starts, wanted, starts, Bool.true_and]
      refine (greedily_run_endingWord identifierChars (fun d member => ?_) (fun d member => ?_)
          ?_ ?_ finish).trans ?_
      · rw [holds_identifierChar] at member
        exact isWordChar_of_isIdentifierChar member
      · rw [holds_identifierChar]
        exact members d member
      · simpa only [funext holds_identifierChar] using stop
      · simpa using word
      · cases closes : closesWord after with
        | false => simp
        | true => simp [taken closes, Cursor.forward]
    · rw [if_neg starts]
      by_cases word : isWordChar c = true <;> simp [word, isIdentifierWord, starts]

end Words

section Constants

theorem isWordChar_of_digit (c : Char) (digit : CharSet.decimalDigit.holds c = true) :
    isWordChar c = true :=
  isWordChar_of_isDecimalDigit digit

theorem attempt_fraction {seen rest : List Char} {captures : List Capture}
    (inWord : seen.head?.any isWordChar = true) (finish : Cursor → α) :
    fraction.attempt ⟨seen, rest, captures⟩ (endingWord finish) =
      if fractionDigits rest != 0 && closesWord (rest.drop (1 + fractionDigits rest)) then
        some (finish ((Cursor.mk seen rest captures).forward (1 + fractionDigits rest)))
      else if closesWord rest then some (finish ⟨seen, rest, captures⟩) else none := by
  rw [fraction, attempt, endingWord, attempt_wordBoundary_after inWord]
  cases rest with
  | nil => rfl
  | cons c rest =>
    rw [attempt, ofSequence, List.foldr_cons, attempt, only, attempt_char, CharSet.holds]
    by_cases point : c = '.'
    · subst point
      cases rest with
      | nil => rfl
      | cons d more =>
        have unfolded : ((List.foldr sequence empty [repeated (char .decimalDigit) .some]).attempt
            ⟨'.' :: seen, d :: more, captures⟩ (endingWord finish)) =
            if isDecimalDigit d then
              greedily (char .decimalDigit).attempt (endingWord finish)
                ⟨d :: '.' :: seen, more, captures⟩
            else none := rfl
        rw [if_pos (beq_self_eq_true _), unfolded]
        by_cases digit : isDecimalDigit d = true
        · -- The digits of the fraction are read to their end, or the fraction is given up.
          obtain ⟨run, after, rfl, members, stop, taken⟩ := run_split isDecimalDigit more
          have length : fractionDigits ('.' :: d :: (run ++ after)) = run.length + 1 := by
            simp [fractionDigits, digit, taken]
          have forwarded : (Cursor.mk seen ('.' :: d :: (run ++ after)) captures).forward
              (1 + (run.length + 1)) = ⟨run.reverse ++ d :: '.' :: seen, after, captures⟩ := by
            rw [Nat.add_comm 1]
            simp [Cursor.forward]
          rw [if_pos digit, greedily_run_endingWord .decimalDigit isWordChar_of_digit members stop
            (by simpa using isWordChar_of_digit d digit), length, forwarded, Nat.add_comm 1]
          simp only [List.drop_succ_cons, List.drop_left]
          cases closesWord after <;> rfl
        · simp [digit, fractionDigits]
    · rw [fractionDigits_of_ne point]
      simp [point]

theorem attempt_fraction_digit {seen rest : List Char} {c : Char} {captures : List Capture}
    (inWord : seen.head?.any isWordChar = true) (digit : isDecimalDigit c = true)
    (finish : Cursor → α) :
    fraction.attempt ⟨seen, c :: rest, captures⟩ (endingWord finish) = none := by
  have noPoint : c ≠ '.' := by
    rintro rfl
    exact absurd digit (by decide)
  have inside : closesWord (c :: rest) = false := by
    simp [closesWord, isWordChar_of_isDecimalDigit digit]
  rw [attempt_fraction inWord, fractionDigits_of_ne noPoint, inside]
  rfl

theorem attempt_digits {rest : List Char}
    (stop : rest.head?.any isDecimalDigit = false) (seen : List Char) (captures : List Capture)
    (digits : Cursor → Option α) :
    (char .decimalDigit).attempt ⟨seen, rest, captures⟩ digits = none := by
  cases rest with
  | nil => rfl
  | cons c rest =>
    have outside : isDecimalDigit c = false := by simpa using stop
    simp [attempt_char, CharSet.holds, outside]

theorem attempt_constant (cursor : Cursor) (finish : Cursor → α) :
    (pattern .constant).attempt cursor (fun stop => some (finish stop)) =
      (constantExtent? cursor.before cursor.rest).map
        fun length => finish (cursor.forward length) := by
  obtain ⟨seen, rest, captures⟩ := cursor
  have unfolded : (pattern .constant).attempt ⟨seen, rest, captures⟩
      (fun stop => some (finish stop)) =
      wordBoundary.attempt ⟨seen, rest, captures⟩ fun start =>
        (char .decimalDigit).attempt start
          (greedily (char .decimalDigit).attempt fun whole =>
            fraction.attempt whole (endingWord finish)) := rfl
  rw [unfolded]
  cases starts : rest.head?.any isDecimalDigit with
  | false =>
    rw [constantExtent?_of_not_digit starts]
    exact attempt_wordBoundary_none (attempt_digits starts seen captures _)
  | true =>
    obtain ⟨c, more, rfl⟩ : ∃ c more, rest = c :: more :=
      List.exists_cons_of_ne_nil (by rintro rfl; simp at starts)
    have digit : isDecimalDigit c = true := by simpa using starts
    obtain ⟨run, after, rfl, members, stop, -⟩ := run_split isDecimalDigit more
    have inWord : (c :: seen).head?.any isWordChar = true := by
      simpa using isWordChar_of_digit c digit
    -- A shorter whole part would have to go on at a digit, where there is no fraction and no
    -- boundary.
    have longest : greedily (char .decimalDigit).attempt
        (fun whole => fraction.attempt whole (endingWord finish))
        ⟨c :: seen, run ++ after, captures⟩ =
        fraction.attempt ⟨run.reverse ++ c :: seen, after, captures⟩ (endingWord finish) :=
      greedily_run_of_stuck .decimalDigit (fun before => before.any isWordChar = true)
        (fun d digit => by simpa using isWordChar_of_digit d digit)
        (fun _ _ _ _ inWord digit => attempt_fraction_digit inWord digit finish)
        members stop inWord
    have inWordAfter : (run.reverse ++ c :: seen).head?.any isWordChar = true :=
      head?_append_isWordChar inWord fun d member => isWordChar_of_digit d (members d member)
    have whole : (Cursor.mk seen (c :: (run ++ after)) captures).forward (run.length + 1) =
        ⟨run.reverse ++ c :: seen, after, captures⟩ := by
      simp [Cursor.forward]
    rw [attempt_wordBoundary_before, attempt_char, CharSet.holds, if_pos digit, longest,
      attempt_fraction inWordAfter, ← List.cons_append,
      constantExtent?_run (List.cons_ne_nil c run) (List.forall_mem_cons.mpr ⟨digit, members⟩) stop,
      List.length_cons, List.cons_append, ← whole, Cursor.forward_forward]
    · rw [Cursor.before]
      cases opensWord seen.head? with
      | false => rfl
      | true =>
        simp only [if_true, apply_ite (Option.map _), Option.map_some, Option.map_none, whole]
    · intro noWord
      simp [isWordChar_of_isDecimalDigit digit] at noWord

end Constants

section Shapes

theorem attempt_set {set : CharSet} {isMember : Char → Bool}
    (agrees : ∀ c, set.holds c = isMember c) (cursor : Cursor) (finish : Cursor → α) :
    (char set).attempt cursor (fun stop => some (finish stop)) =
      (charExtent? isMember cursor.rest).map fun length => finish (cursor.forward length) := by
  obtain ⟨seen, rest, captures⟩ := cursor
  cases rest with
  | nil => rfl
  | cons c rest =>
    rw [attempt_char, agrees]
    cases member : isMember c <;> simp [charExtent?, member]

theorem attempt_doubled (wanted : Char) (cursor : Cursor) (finish : Cursor → α) :
    (ofSequence ([wanted, wanted].map only)).attempt cursor (fun stop => some (finish stop)) =
      (doubledExtent? wanted cursor.rest).map fun length => finish (cursor.forward length) := by
  rw [attempt_ofCharacters]
  obtain ⟨seen, rest, captures⟩ := cursor
  cases rest with
  | nil => rfl
  | cons c rest =>
    cases rest with
    | nil => simp [doubledExtent?]
    | cons d rest =>
      by_cases same : c = wanted ∧ d = wanted
      · obtain ⟨rfl, rfl⟩ := same
        simp [doubledExtent?]
      · have differ : ¬ [wanted, wanted] <+: c :: d :: rest := by
          rw [List.cons_prefix_cons, List.cons_prefix_cons]
          rintro ⟨first, second, -⟩
          exact same ⟨first.symm, second.symm⟩
        simp [doubledExtent?, differ, same]

theorem attempt_run {set : CharSet} {isMember : Char → Bool}
    (agrees : ∀ c, set.holds c = isMember c) (cursor : Cursor) (finish : Cursor → α) :
    (repeated (char set) .some).attempt cursor (fun stop => some (finish stop)) =
      (runExtent? isMember cursor.rest).map fun length => finish (cursor.forward length) := by
  obtain ⟨seen, rest, captures⟩ := cursor
  cases rest with
  | nil => rfl
  | cons c rest =>
    rw [attempt, attempt_char, agrees]
    cases member : isMember c with
    | false => simp [runExtent?, member]
    | true =>
      obtain ⟨run, after, rfl, members, stop, taken⟩ := run_split isMember rest
      have longest : greedily (char set).attempt (fun stop => some (finish stop))
          ⟨c :: seen, run ++ after, captures⟩ =
          some (finish ⟨run.reverse ++ c :: seen, after, captures⟩) :=
        greedily_run_of_some set (fun d inRun => (agrees d).trans (members d inRun))
          (by simpa only [funext agrees] using stop)
      rw [if_pos rfl]
      refine longest.trans ?_
      simp [runExtent?, member, taken, Cursor.forward]

end Shapes

section Closed

theorem holds_allBut (close : Char) (c : Char) :
    (CharSet.notAmong [.one close]).holds c = (c != close) := by
  simp [CharSet.holds, SetMember.holds, bne]

theorem attempt_closing (close : Char) (seen rest : List Char) (captures : List Capture)
    (finish : Cursor → α) :
    greedily (allBut close).attempt
        (fun stop => (only close).attempt stop fun stop => some (finish stop))
        ⟨seen, rest, captures⟩ =
      (closedExtent? close 0 rest).map
        fun length => finish ((Cursor.mk seen rest captures).forward length) := by
  obtain ⟨run, after, rfl, members, stop, -⟩ := run_split (· != close) rest
  -- The closing character is none of the others, so it is not found before their run ends.
  have longest : greedily (allBut close).attempt
      (fun stop => (only close).attempt stop fun stop => some (finish stop))
      ⟨seen, run ++ after, captures⟩ =
      (only close).attempt ⟨run.reverse ++ seen, after, captures⟩
        fun stop => some (finish stop) := by
    refine greedily_run_of_stuck _ (fun _ => True) (fun _ _ => trivial) ?_ ?_ ?_ trivial
    · intro seen c rest captures _ differs
      rw [holds_allBut, bne_iff_ne] at differs
      simp [only, attempt_char, CharSet.holds, differs]
    · exact fun c member => (holds_allBut close c).trans (members c member)
    · simpa only [funext (holds_allBut close)] using stop
  rw [longest, closedExtent?_run members stop]
  cases after with
  | nil => simp [only, attempt]
  | cons c after =>
    have closes : c = close := by simpa using stop
    simp [only, attempt_char, CharSet.holds, closes]

theorem attempt_quoted (quote : Char) (cursor : Cursor) (finish : Cursor → α) :
    (ofSequence [only quote, repeated (allBut quote) .any, only quote]).attempt cursor
        (fun stop => some (finish stop)) =
      (quotedExtent? quote cursor.rest).map fun length => finish (cursor.forward length) := by
  have unfolded : (ofSequence [only quote, repeated (allBut quote) .any, only quote]).attempt cursor
      (fun stop => some (finish stop)) =
      (only quote).attempt cursor (greedily (allBut quote).attempt
        fun stop => (only quote).attempt stop fun stop => some (finish stop)) := rfl
  rw [unfolded]
  obtain ⟨seen, rest, captures⟩ := cursor
  cases rest with
  | nil => rfl
  | cons c rest =>
    rw [only, attempt_char, CharSet.holds, quotedExtent?]
    by_cases opens : c = quote
    · rw [if_pos (beq_iff_eq.mpr opens), if_pos opens]
      refine (attempt_closing quote (c :: seen) rest captures finish).trans ?_
      cases closedExtent? quote 0 rest <;> simp [Cursor.forward]
    · simp [opens]

end Closed

section Comments

theorem attempt_untilClose (seen rest : List Char) (captures : List Capture)
    (finish : Cursor → α) :
    lazily (char .anyButNewline).attempt
        (fun stop => (ofWord "*/").attempt stop fun stop => some (finish stop))
        ⟨seen, rest, captures⟩ =
      (closingOffset? 0 rest).map
        fun offset => finish ((Cursor.mk seen rest captures).forward (offset + 2)) := by
  induction rest generalizing seen with
  | nil =>
    rw [lazily_char_nil, attempt_ofWord]
    rfl
  | cons c rest ih =>
    -- The closing is tried before another character is read.
    rw [lazily_char_cons, ih, attempt_ofWord, closingOffset?_cons, closingOffset?_add (0 + 1)]
    by_cases closes : ['*', '/'] <+: c :: rest
    · rw [if_pos closes]
      exact congrArg (Option.or · _) (if_pos closes)
    · rw [if_neg closes]
      refine (congrArg (Option.or · _) (if_neg closes)).trans ?_
      rw [Option.none_or]
      by_cases newline : c = '\n'
      · simp [CharSet.holds, newline]
      · have held : CharSet.anyButNewline.holds c = true := by simpa [CharSet.holds] using newline
        rw [if_pos held, if_neg newline, Option.map_map]
        congr 1
        funext offset
        have sum : 0 + 1 + offset + 2 = offset + 2 + 1 := by omega
        rw [Function.comp_apply, sum, Cursor.forward_cons]

theorem attempt_comment (cursor : Cursor) (finish : Cursor → α) :
    (pattern .comment).attempt cursor (fun stop => some (finish stop)) =
      (commentExtent? cursor.rest).map fun length => finish (cursor.forward length) := by
  have unfolded : (pattern .comment).attempt cursor (fun stop => some (finish stop)) =
      ((ofWord "//").attempt cursor (greedily (char .anyButNewline).attempt
        fun stop => some (finish stop))).or
      ((ofWord "/*").attempt cursor (lazily (char .anyButNewline).attempt
        fun stop => (ofWord "*/").attempt stop fun stop => some (finish stop))) := rfl
  rw [unfolded, attempt_ofWord, attempt_ofWord]
  obtain ⟨seen, rest, captures⟩ := cursor
  -- The first alternative fails at its opening or not at all.
  by_cases line : ['/', '/'] <+: rest
  · obtain ⟨rest, rfl⟩ := line
    obtain ⟨run, after, rfl, members, stop, taken⟩ := run_split (· != '\n') rest
    have longest : greedily (char .anyButNewline).attempt (fun stop => some (finish stop))
        ⟨'/' :: '/' :: seen, run ++ after, captures⟩ =
        some (finish ⟨run.reverse ++ '/' :: '/' :: seen, after, captures⟩) :=
      greedily_run_of_some .anyButNewline members stop
    refine (congrArg (Option.or · _) ((if_pos (List.prefix_append _ _)).trans longest)).trans ?_
    simp [commentExtent?, taken, Nat.add_comm 2]
  · by_cases block : ['/', '*'] <+: rest
    · obtain ⟨rest, rfl⟩ := block
      refine (congrArg (Option.or · _) (if_neg line)).trans ?_
      refine Option.none_or.trans ((if_pos (List.prefix_append _ _)).trans ?_)
      refine (attempt_untilClose ('*' :: '/' :: seen) rest captures finish).trans ?_
      simp [commentExtent?, Function.comp_def]
    · rw [commentExtent?_of_not_opened line block]
      refine (congrArg (Option.or · _) (if_neg line)).trans ?_
      exact (Option.none_or).trans (if_neg block)

end Comments

section Directive

theorem greedily_blanks {seen run after : List Char} {captures : List Capture}
    (stuck : ∀ seen c rest captures, isBlank c = true → next ⟨seen, c :: rest, captures⟩ = none)
    (members : ∀ c ∈ run, isBlank c = true) (stop : after.head?.any isBlank = false) :
    greedily (char .blank).attempt next ⟨seen, run ++ after, captures⟩ =
      next ⟨run.reverse ++ seen, after, captures⟩ :=
  greedily_run_of_stuck .blank (fun _ => True) (fun _ _ => trivial)
    (fun seen c rest captures _ blank => stuck seen c rest captures blank) members stop trivial

theorem attempt_header (seen rest : List Char) (captures : List Capture) (finish : Cursor → α) :
    (ofSequence [repeated (allBut '>') .some, only '>']).attempt ⟨seen, rest, captures⟩
        (fun stop => some (finish stop)) =
      (closedExtent? '>' 1 rest).map
        fun length => finish ((Cursor.mk seen rest captures).forward length) := by
  have unfolded : (ofSequence [repeated (allBut '>') .some, only '>']).attempt
      ⟨seen, rest, captures⟩ (fun stop => some (finish stop)) =
      (allBut '>').attempt ⟨seen, rest, captures⟩ (greedily (allBut '>').attempt
        fun stop => (only '>').attempt stop fun stop => some (finish stop)) := rfl
  rw [unfolded]
  cases rest with
  | nil => rfl
  | cons c rest =>
    rw [allBut, attempt_char, holds_allBut]
    by_cases closes : c = '>'
    · simp [closes, closedExtent?]
    · have differs : (c != '>') = true := bne_iff_ne.mpr closes
      rw [if_pos differs]
      refine (attempt_closing '>' (c :: seen) rest captures finish).trans ?_
      obtain ⟨run, after, rfl, members, stop, -⟩ := run_split (· != '>') rest
      rw [← List.cons_append, closedExtent?_run members stop,
        closedExtent?_run (List.forall_mem_cons.mpr ⟨differs, members⟩) stop]
      cases after <;> simp

theorem forward_directive (seen blanks moreBlanks header : List Char) (captures : List Capture)
    (length : Nat) :
    (Cursor.mk ('<' :: (moreBlanks.reverse ++ ("include".toList.reverse ++ (blanks.reverse ++
        '#' :: seen)))) header captures).forward length =
      (Cursor.mk seen ('#' :: (blanks ++ ("include".toList ++ (moreBlanks ++ '<' :: header))))
        captures).forward (blanks.length + moreBlanks.length + 9 + length) := by
  have sum : blanks.length + moreBlanks.length + 9 + length =
      1 + (blanks.length + ("include".toList.length + (moreBlanks.length + (1 + length)))) := by
    show _ = 1 + (blanks.length + (7 + (moreBlanks.length + (1 + length))))
    omega
  rw [sum, ← Cursor.forward_forward, Cursor.forward_one, ← Cursor.forward_forward,
    Cursor.forward_append, ← Cursor.forward_forward, Cursor.forward_append,
    ← Cursor.forward_forward, Cursor.forward_append, ← Cursor.forward_forward, Cursor.forward_one]

theorem attempt_preprocessor (cursor : Cursor) (finish : Cursor → α) :
    (pattern .preprocessor).attempt cursor (fun stop => some (finish stop)) =
      (preprocessorExtent? cursor.rest).map fun length => finish (cursor.forward length) := by
  have unfolded : (pattern .preprocessor).attempt cursor (fun stop => some (finish stop)) =
      (only '#').attempt cursor (greedily (char .blank).attempt fun name =>
        (ofWord "include").attempt name (greedily (char .blank).attempt fun opening =>
          (only '<').attempt opening fun header =>
            (ofSequence [repeated (allBut '>') .some, only '>']).attempt header
              fun stop => some (finish stop))) := rfl
  rw [unfolded]
  obtain ⟨seen, rest, captures⟩ := cursor
  cases rest with
  | nil => rfl
  | cons c rest =>
    rw [only, attempt_char, CharSet.holds]
    by_cases hash : c = '#'
    · subst hash
      rw [if_pos (beq_self_eq_true _)]
      -- Blanks are never given back: neither the name nor the bracket begins with one.
      obtain ⟨blanks, rest, rfl, members, stop, taken⟩ := run_split isBlank rest
      rw [greedily_blanks _ members stop, attempt_ofWord]
      · by_cases name : "include".toList <+: rest
        · obtain ⟨rest, rfl⟩ := id name
          obtain ⟨moreBlanks, rest, rfl, moreMembers, stop, -⟩ := run_split isBlank rest
          rw [if_pos name, Cursor.forward_append, greedily_blanks _ moreMembers stop]
          · by_cases opens : rest.head? = some '<'
            · obtain ⟨header, rfl⟩ : ∃ header, rest = '<' :: header :=
                List.head?_eq_some_iff.mp opens
              refine (attempt_header _ header captures finish).trans ?_
              rw [preprocessorExtent?_of_opening members moreMembers, Option.map_map]
              congr 1
              funext length
              exact congrArg finish
                (forward_directive seen blanks moreBlanks header captures length)
            · rw [preprocessorExtent?_of_no_opening members moreMembers stop opens]
              cases rest with
              | nil => rfl
              | cons d rest =>
                have differ : d ≠ '<' := fun same => opens (congrArg some same)
                simp [only, attempt_char, CharSet.holds, differ]
          · intro seen c rest captures blank
            have differ : c ≠ '<' := by
              rintro rfl
              exact absurd blank (by decide)
            simp [only, attempt_char, CharSet.holds, differ]
        · rw [if_neg name, preprocessorExtent?_of_no_name members stop name, Option.map_none]
      · intro seen c rest captures blank
        have noName : ¬ "include".toList <+: c :: rest := by
          rintro ⟨after, same⟩
          obtain ⟨rfl, -⟩ := List.cons.inj same
          exact absurd blank (by decide)
        rw [attempt_ofWord, if_neg noName]
    · have noHash : (c :: rest).head? ≠ some '#' := fun same => hash (Option.some.inj same)
      simp [preprocessorExtent?_of_not_hash noHash, hash]

end Directive

theorem attempt_relational (cursor : Cursor) (finish : Cursor → α) :
    (pattern .relational).attempt cursor (fun stop => some (finish stop)) =
      (relationalExtent? cursor.rest).map fun length => finish (cursor.forward length) := by
  rw [relationalExtent?_eq, List.map_findSome?]
  refine (attempt_anyWord ">=" ["<=", "==", "!=", ">", "<"] cursor).trans ?_
  congr 1
  funext word
  rw [Function.comp_apply, apply_ite (Option.map _)]
  rfl

-- The rest of a match never fails here, so the way that a rule prefers is the one that is taken.
theorem attempt_pattern (category : Category) (cursor : Cursor) (finish : Cursor → α) :
    (pattern category).attempt cursor (fun stop => some (finish stop)) =
      (extent? category cursor.before cursor.rest).map
        fun length => finish (cursor.forward length) := by
  cases category with
  | comment => exact attempt_comment cursor finish
  | preprocessor => exact attempt_preprocessor cursor finish
  | datatype => exact attempt_words (by decide) cursor finish
  | keyword => exact attempt_words (by decide) cursor finish
  | identifier => exact attempt_identifier cursor finish
  | constant => exact attempt_constant cursor finish
  | stringLiteral => exact attempt_quoted '"' cursor finish
  | charLiteral => exact attempt_quoted '\'' cursor finish
  | increment => exact attempt_doubled '+' cursor finish
  | decrement => exact attempt_doubled '-' cursor finish
  | relational => exact attempt_relational cursor finish
  | atSign | assignment | newline => exact attempt_set (fun _ => rfl) cursor finish
  | arithmetic | roundBracket | curlyBracket | separator =>
    apply attempt_set
    simp [CharSet.holds, SetMember.holds, Bool.or_assoc]
  | whitespace =>
    apply attempt_run
    simp [CharSet.holds, SetMember.holds]

end LexReport.Scan.Pattern
