import LexReport.Proofs.Scan.Extent

/-! What each rule reads, told by the lexeme itself, by what may come before it and by what may
follow it; and that the measures of the rules find just these lexemes. -/

set_option autoImplicit false

namespace LexReport.Scan

open Text

section Lexemes

def IsLineComment (lexeme : List Char) : Prop :=
  ∃ body, lexeme = '/' :: '/' :: body ∧ '\n' ∉ body

/-- From `/*` through the first `*/` after it, on one line. -/
def IsBlockComment (lexeme : List Char) : Prop :=
  ∃ body, lexeme = '/' :: '*' :: (body ++ ['*', '/']) ∧ '\n' ∉ body ∧
    ¬ ['*', '/'] <:+: body ++ ['*']

/-- A hash, the name of the directive and a header in angle brackets that is not empty. The blanks
may be line feeds, and so may the characters of the header. -/
def IsDirective (lexeme : List Char) : Prop :=
  ∃ blanks moreBlanks header,
    lexeme = '#' :: (blanks ++ ("include".toList ++ (moreBlanks ++ '<' :: (header ++ ['>'])))) ∧
      (∀ c ∈ blanks, isBlank c = true) ∧ (∀ c ∈ moreBlanks, isBlank c = true) ∧
      header ≠ [] ∧ '>' ∉ header

def IsWord (isWanted : List Char → Bool) (lexeme : List Char) : Prop :=
  lexeme ≠ [] ∧ (∀ c ∈ lexeme, isWordChar c = true) ∧ isWanted lexeme = true

def IsDigits (lexeme : List Char) : Prop :=
  lexeme ≠ [] ∧ ∀ c ∈ lexeme, isDecimalDigit c = true

def IsNumber (lexeme : List Char) : Prop :=
  ∃ whole, IsDigits whole ∧
    (lexeme = whole ∨ ∃ digits, IsDigits digits ∧ lexeme = whole ++ '.' :: digits)

def IsQuoted (quote : Char) (lexeme : List Char) : Prop :=
  ∃ body, lexeme = quote :: (body ++ [quote]) ∧ quote ∉ body

def IsRun (members lexeme : List Char) : Prop :=
  lexeme ≠ [] ∧ ∀ c ∈ lexeme, c ∈ members

/-- What the lexemes of a category look like. -/
def Spells : Category → List Char → Prop
  | .comment, lexeme => IsLineComment lexeme ∨ IsBlockComment lexeme
  | .preprocessor, lexeme => IsDirective lexeme
  | .atSign, lexeme => lexeme = ['@']
  | .datatype, lexeme => IsWord (fun word => datatypeNames.contains (String.ofList word)) lexeme
  | .keyword, lexeme => IsWord (fun word => reservedWords.contains (String.ofList word)) lexeme
  | .identifier, lexeme => IsWord isIdentifierWord lexeme
  | .constant, lexeme => IsNumber lexeme
  | .stringLiteral, lexeme => IsQuoted '"' lexeme
  | .charLiteral, lexeme => IsQuoted '\'' lexeme
  | .increment, lexeme => lexeme = ['+', '+']
  | .decrement, lexeme => lexeme = ['-', '-']
  | .assignment, lexeme => lexeme = ['=']
  | .arithmetic, lexeme => ∃ c ∈ ['+', '-', '*', '/'], lexeme = [c]
  | .relational, lexeme =>
    (∃ c ∈ ['>', '<', '=', '!'], lexeme = [c, '=']) ∨ ∃ c ∈ ['>', '<'], lexeme = [c]
  | .roundBracket, lexeme => ∃ c ∈ ['(', ')'], lexeme = [c]
  | .curlyBracket, lexeme => ∃ c ∈ ['\x7b', '\x7d'], lexeme = [c]
  | .separator, lexeme => ∃ c ∈ [';', ',', ':'], lexeme = [c]
  | .whitespace, lexeme => IsRun [' ', '\t'] lexeme
  | .newline, lexeme => lexeme = ['\n']

end Lexemes

section Surroundings

/-- Words and numbers begin where no word character comes before. -/
def Opens (category : Category) (before : Option Char) : Prop :=
  match category with
  | .datatype | .keyword | .identifier | .constant => opensWord before = true
  | _ => True

def HasFraction (after : List Char) : Prop :=
  ∃ digits rest, after = '.' :: (digits ++ rest) ∧ IsDigits digits ∧ closesWord rest = true

/-- Where a lexeme of a category ends: words and numbers before what is no word character, and
what could be longer before what it does not go on with. -/
def Closes (category : Category) (lexeme after : List Char) : Prop :=
  match category with
  | .comment => ['/', '/'] <+: lexeme → after.head?.any (· != '\n') = false
  | .datatype | .keyword | .identifier => closesWord after = true
  | .constant => closesWord after = true ∧ ('.' ∉ lexeme → ¬ HasFraction after)
  | .relational => lexeme.length = 1 → after.head? ≠ some '='
  | .whitespace => after.head?.any (fun c => c == ' ' || c == '\t') = false
  | _ => True

/-- The rule of a category reads a lexeme between the character before it and the text after it. -/
structure Reads (category : Category) (before : Option Char) (lexeme after : List Char) : Prop where
  spells : Spells category lexeme
  opens : Opens category before
  closes : Closes category lexeme after

end Surroundings

section Sound

variable {before : Option Char} {rest : List Char} {length : Nat}

theorem charExtent?_sound {isMember : Char → Bool}
    (found : charExtent? isMember rest = some length) :
    ∃ c after, rest = c :: after ∧ length = 1 ∧ isMember c = true := by
  cases rest with
  | nil => simp [charExtent?] at found
  | cons c after =>
    rw [charExtent?] at found
    split at found
    · rename_i member
      exact ⟨c, after, rfl, (Option.some.inj found).symm, member⟩
    · contradiction

theorem doubledExtent?_sound {wanted : Char} (found : doubledExtent? wanted rest = some length) :
    ∃ after, rest = wanted :: wanted :: after ∧ length = 2 := by
  unfold doubledExtent? at found
  split at found
  · rename_i c d after
    split at found
    · rename_i same
      simp only [Bool.and_eq_true, decide_eq_true_eq] at same
      obtain ⟨rfl, rfl⟩ := same
      exact ⟨after, rfl, (Option.some.inj found).symm⟩
    · contradiction
  · contradiction

theorem runExtent?_sound {isMember : Char → Bool} (found : runExtent? isMember rest = some length) :
    ∃ run after, rest = run ++ after ∧ run.length = length ∧ run ≠ [] ∧
      (∀ c ∈ run, isMember c = true) ∧ after.head?.any isMember = false := by
  obtain ⟨run, after, rfl, members, stop, taken⟩ := run_split isMember rest
  rw [runExtent?, taken] at found
  cases run with
  | nil => contradiction
  | cons c run =>
    exact ⟨c :: run, after, rfl, Option.some.inj found, List.cons_ne_nil _ _, members, stop⟩

theorem wordExtent?_sound {isWanted : List Char → Bool}
    (found : wordExtent? isWanted before rest = some length) :
    ∃ word after, rest = word ++ after ∧ word.length = length ∧ IsWord isWanted word ∧
      opensWord before = true ∧ closesWord after = true := by
  obtain ⟨run, after, rfl, members, stop, taken⟩ := run_split isWordChar rest
  simp only [wordExtent?, taken] at found
  split at found
  · rename_i opens
    split at found
    · rename_i wanted
      simp only [Bool.and_eq_true, Bool.not_eq_true', List.isEmpty_eq_false_iff] at wanted
      exact ⟨run, after, rfl, Option.some.inj found, ⟨wanted.1, members, wanted.2⟩, opens,
        closesWord_eq_true_iff.mpr stop⟩
    · contradiction
  · contradiction

theorem fractionDigits_digits {digits rest : List Char} (digital : IsDigits digits)
    (closes : closesWord rest = true) :
    fractionDigits ('.' :: (digits ++ rest)) = digits.length := by
  rw [fractionDigits_point, takeWhile_append_of_stop digital.2 (isDecimalDigit_stop closes)]

theorem hasFraction_iff {after : List Char} :
    HasFraction after ↔ fractionDigits after ≠ 0 ∧
      closesWord (after.drop (1 + fractionDigits after)) = true := by
  constructor
  · rintro ⟨digits, rest, rfl, digital, closes⟩
    rw [fractionDigits_digits digital closes, Nat.add_comm 1, List.drop_succ_cons, List.drop_left]
    exact ⟨by simpa using digital.1, closes⟩
  · rintro ⟨filled, closes⟩
    cases after with
    | nil => exact absurd rfl filled
    | cons c after =>
      by_cases point : c = '.'
      · subst point
        obtain ⟨digits, rest, rfl, members, -, taken⟩ := run_split isDecimalDigit after
        rw [fractionDigits_point, taken] at filled closes
        rw [Nat.add_comm 1, List.drop_succ_cons, List.drop_left] at closes
        exact ⟨digits, rest, rfl, ⟨by simpa using filled, members⟩, closes⟩
      · exact absurd (fractionDigits_of_ne point after) filled

theorem constantExtent?_of_fraction {before : Option Char} {whole digits after : List Char}
    (whole_digits : IsDigits whole) (digital : IsDigits digits) (closes : closesWord after = true) :
    constantExtent? before (whole ++ '.' :: (digits ++ after)) =
      if opensWord before then some (whole ++ '.' :: digits).length else none := by
  have fraction : HasFraction ('.' :: (digits ++ after)) := ⟨digits, after, rfl, digital, closes⟩
  obtain ⟨filled, ends⟩ := hasFraction_iff.mp fraction
  have stop : ('.' :: (digits ++ after)).head?.any isDecimalDigit = false := by
    show isDecimalDigit '.' = false
    decide
  rw [constantExtent?_run whole_digits.1 whole_digits.2 stop, ends, bne_iff_ne.mpr filled,
    fractionDigits_digits digital closes, List.length_append, List.length_cons, Nat.add_comm 1]
  rfl

theorem constantExtent?_of_whole {before : Option Char} {whole after : List Char}
    (whole_digits : IsDigits whole) (stop : after.head?.any isDecimalDigit = false)
    (noFraction : ¬ HasFraction after) :
    constantExtent? before (whole ++ after) =
      if opensWord before && closesWord after then some whole.length else none := by
  rw [hasFraction_iff, not_and, Bool.not_eq_true] at noFraction
  rw [constantExtent?_run whole_digits.1 whole_digits.2 stop]
  cases opensWord before with
  | false => rfl
  | true =>
    by_cases filled : fractionDigits after = 0
    · simp [filled]
    · simp [noFraction filled]

theorem constantExtent?_sound (found : constantExtent? before rest = some length) :
    ∃ lexeme after, rest = lexeme ++ after ∧ lexeme.length = length ∧ IsNumber lexeme ∧
      opensWord before = true ∧ closesWord after = true ∧ ('.' ∉ lexeme → ¬ HasFraction after) := by
  obtain ⟨whole, after, rfl, members, stop, -⟩ := run_split isDecimalDigit rest
  -- The digits in front are cut off; behind them a fraction is there or not.
  by_cases filled : whole = []
  · rw [filled, List.nil_append, constantExtent?_of_not_digit stop] at found
    contradiction
  · have whole_digits : IsDigits whole := ⟨filled, members⟩
    by_cases fraction : HasFraction after
    · obtain ⟨digits, after, rfl, digital, closes⟩ := fraction
      rw [constantExtent?_of_fraction whole_digits digital closes] at found
      obtain ⟨opens, same⟩ := Option.ite_none_right_eq_some.mp found
      refine ⟨whole ++ '.' :: digits, after, by simp, Option.some.inj same, ?_, opens, closes, ?_⟩
      · exact ⟨whole, whole_digits, .inr ⟨digits, digital, rfl⟩⟩
      · exact fun noPoint => absurd (by simp) noPoint
    · rw [constantExtent?_of_whole whole_digits stop fraction] at found
      obtain ⟨both, same⟩ := Option.ite_none_right_eq_some.mp found
      obtain ⟨opens, closes⟩ := (Bool.and_eq_true _ _).mp both
      exact ⟨whole, after, rfl, Option.some.inj same, ⟨whole, whole_digits, .inl rfl⟩, opens,
        closes, fun _ => fraction⟩

theorem closedExtent?_sound {close : Char} {least : Nat}
    (found : closedExtent? close least rest = some length) :
    ∃ body after, rest = body ++ close :: after ∧ body.length + 1 = length ∧
      least ≤ body.length ∧ close ∉ body := by
  obtain ⟨run, after, rfl, members, stop, -⟩ := run_split (· != close) rest
  rw [closedExtent?_run members stop] at found
  split at found
  · contradiction
  · rename_i enough
    simp only [Bool.or_eq_true, decide_eq_true_eq, not_or, Nat.not_lt] at enough
    cases after with
    | nil => exact absurd rfl enough.2
    | cons c after =>
      have closes : c = close := by simpa using stop
      subst closes
      refine ⟨run, after, rfl, Option.some.inj found, enough.1, ?_⟩
      exact fun member => by simpa using members c member

theorem closedExtent?_complete {close : Char} {least : Nat} {body after : List Char}
    (enough : least ≤ body.length) (absent : close ∉ body) :
    closedExtent? close least (body ++ close :: after) = some (body.length + 1) := by
  have members : ∀ c ∈ body, (c != close) = true := by
    intro c member
    rw [bne_iff_ne]
    rintro rfl
    exact absent member
  have stop : (close :: after).head?.any (· != close) = false := by simp
  rw [closedExtent?_run members stop]
  simpa using enough

theorem closingOffset?_sound (found : closingOffset? 0 rest = some length) :
    ∃ body after, rest = body ++ '*' :: '/' :: after ∧ body.length = length ∧ '\n' ∉ body ∧
      ¬ ['*', '/'] <:+: body ++ ['*'] := by
  induction rest generalizing length with
  | nil => contradiction
  | cons c rest ih =>
    rw [closingOffset?_cons, closingOffset?_add] at found
    split at found
    · rename_i closes
      obtain ⟨after, same⟩ := closes
      exact ⟨[], after, same.symm, Option.some.inj found, List.not_mem_nil, by decide⟩
    · rename_i noClose
      split at found
      · contradiction
      · rename_i noBreak
        obtain ⟨offset, further, rfl⟩ := Option.map_eq_some_iff.mp found
        obtain ⟨body, after, rfl, rfl, line, first⟩ := ih further
        refine ⟨c :: body, after, rfl, Nat.add_comm _ _, ?_, ?_⟩
        · exact List.not_mem_cons_of_ne_of_not_mem (Ne.symm noBreak) line
        · -- The first character and the star of the closing may look like a closing themselves.
          rw [List.cons_append, List.infix_cons_iff, not_or]
          refine ⟨fun starts => noClose ?_, first⟩
          exact starts.trans (List.prefix_append_right_inj (c :: body) |>.mpr ⟨'/' :: after, rfl⟩)

theorem closingOffset?_complete {body after : List Char} (line : '\n' ∉ body)
    (first : ¬ ['*', '/'] <:+: body ++ ['*']) :
    closingOffset? 0 (body ++ '*' :: '/' :: after) = some body.length := by
  induction body with
  | nil => rfl
  | cons c body ih =>
    rw [List.mem_cons, not_or] at line
    rw [List.cons_append, List.infix_cons_iff, not_or] at first
    have noClose : ¬ ['*', '/'] <+: c :: (body ++ '*' :: '/' :: after) := by
      intro starts
      apply first.1
      cases body with
      | nil => simp at starts
      | cons d body => simpa using starts
    rw [List.cons_append, closingOffset?_cons, if_neg noClose, if_neg (Ne.symm line.1),
      closingOffset?_add, ih line.2 first.2]
    simp [Nat.add_comm]

theorem commentExtent?_sound (found : commentExtent? rest = some length) :
    ∃ lexeme after, rest = lexeme ++ after ∧ lexeme.length = length ∧
      (IsLineComment lexeme ∧ after.head?.any (· != '\n') = false ∨ IsBlockComment lexeme) := by
  unfold commentExtent? at found
  split at found
  · rename_i rest
    obtain ⟨body, after, rfl, members, stop, taken⟩ := run_split (· != '\n') rest
    rw [taken] at found
    refine ⟨'/' :: '/' :: body, after, rfl, ?_, .inl ⟨⟨body, rfl, ?_⟩, stop⟩⟩
    · rw [← Option.some.inj found, List.length_cons, List.length_cons, Nat.add_comm 2]
    · exact fun member => by simpa using members '\n' member
  · rename_i rest
    obtain ⟨offset, closed, rfl⟩ := Option.map_eq_some_iff.mp found
    obtain ⟨body, after, rfl, rfl, line, first⟩ := closingOffset?_sound closed
    exact ⟨'/' :: '*' :: (body ++ ['*', '/']), after, by simp, by simp,
      .inr ⟨body, rfl, line, first⟩⟩
  · contradiction

theorem preprocessorExtent?_sound (found : preprocessorExtent? rest = some length) :
    ∃ lexeme after, rest = lexeme ++ after ∧ lexeme.length = length ∧ IsDirective lexeme := by
  by_cases hash : rest.head? = some '#'
  · obtain ⟨rest, rfl⟩ := List.head?_eq_some_iff.mp hash
    obtain ⟨blanks, rest, rfl, members, stop, -⟩ := run_split isBlank rest
    by_cases name : "include".toList <+: rest
    · obtain ⟨rest, rfl⟩ := name
      obtain ⟨moreBlanks, rest, rfl, moreMembers, stop, -⟩ := run_split isBlank rest
      by_cases opens : rest.head? = some '<'
      · obtain ⟨rest, rfl⟩ := List.head?_eq_some_iff.mp opens
        rw [preprocessorExtent?_of_opening members moreMembers] at found
        obtain ⟨closed, measured, rfl⟩ := Option.map_eq_some_iff.mp found
        obtain ⟨header, after, rfl, rfl, filled, absent⟩ := closedExtent?_sound measured
        refine ⟨'#' :: (blanks ++ ("include".toList ++ (moreBlanks ++ '<' :: (header ++ ['>'])))),
          after, by simp, ?_, blanks, moreBlanks, header, rfl, members, moreMembers,
          List.length_pos_iff.mp filled, absent⟩
        have name_length : "include".toList.length = 7 := rfl
        simp only [List.length_cons, List.length_append, List.length_nil, name_length]
        omega
      · rw [preprocessorExtent?_of_no_opening members moreMembers stop opens] at found
        contradiction
    · rw [preprocessorExtent?_of_no_name members stop name] at found
      contradiction
  · rw [preprocessorExtent?_of_not_hash hash] at found
    contradiction

theorem quotedExtent?_sound {quote : Char} (found : quotedExtent? quote rest = some length) :
    ∃ lexeme after, rest = lexeme ++ after ∧ lexeme.length = length ∧ IsQuoted quote lexeme := by
  cases rest with
  | nil => contradiction
  | cons c rest =>
    rw [quotedExtent?] at found
    split at found
    · rename_i opens
      subst opens
      obtain ⟨closed, measured, rfl⟩ := Option.map_eq_some_iff.mp found
      obtain ⟨body, after, rfl, rfl, -, absent⟩ := closedExtent?_sound measured
      exact ⟨c :: (body ++ [c]), after, by simp, by simp, body, rfl, absent⟩
    · contradiction

theorem relationalExtent?_sound (found : relationalExtent? rest = some length) :
    ∃ lexeme after, rest = lexeme ++ after ∧ lexeme.length = length ∧
      Spells .relational lexeme ∧ Closes .relational lexeme after := by
  unfold relationalExtent? at found
  split at found
  iterate 4
    rename_i after
    exact ⟨[_, '='], after, rfl, Option.some.inj found, .inl ⟨_, by decide, rfl⟩, by simp [Closes]⟩
  iterate 2
    rename_i after notBoth
    refine ⟨[_], after, rfl, Option.some.inj found, .inr ⟨_, by decide, rfl⟩, fun _ follows => ?_⟩
    obtain ⟨after, rfl⟩ := List.head?_eq_some_iff.mp follows
    exact notBoth after rfl
  contradiction

theorem extent?_sound {category : Category} (found : extent? category before rest = some length) :
    ∃ lexeme after, rest = lexeme ++ after ∧ lexeme.length = length ∧
      Reads category before lexeme after := by
  cases category <;> rw [extent?] at found
  case comment =>
    obtain ⟨lexeme, after, cut, same, ⟨line, stop⟩ | block⟩ := commentExtent?_sound found
    · exact ⟨lexeme, after, cut, same, .inl line, trivial, fun _ => stop⟩
    -- A block comment ends of itself; what is behind counts for a line comment only.
    · refine ⟨lexeme, after, cut, same, .inr block, trivial, fun line => ?_⟩
      obtain ⟨body, rfl, -⟩ := block
      simp at line
  case preprocessor =>
    obtain ⟨lexeme, after, cut, same, spells⟩ := preprocessorExtent?_sound found
    exact ⟨lexeme, after, cut, same, spells, trivial, trivial⟩
  case datatype | keyword | identifier =>
    obtain ⟨lexeme, after, cut, same, spells, opens, closes⟩ := wordExtent?_sound found
    exact ⟨lexeme, after, cut, same, spells, opens, closes⟩
  case constant =>
    obtain ⟨lexeme, after, cut, same, spells, opens, closes⟩ := constantExtent?_sound found
    exact ⟨lexeme, after, cut, same, spells, opens, closes⟩
  case stringLiteral | charLiteral =>
    obtain ⟨lexeme, after, cut, same, spells⟩ := quotedExtent?_sound found
    exact ⟨lexeme, after, cut, same, spells, trivial, trivial⟩
  case increment | decrement =>
    obtain ⟨after, rfl, rfl⟩ := doubledExtent?_sound found
    exact ⟨[_, _], after, rfl, rfl, rfl, trivial, trivial⟩
  case relational =>
    obtain ⟨lexeme, after, cut, same, spells, closes⟩ := relationalExtent?_sound found
    exact ⟨lexeme, after, cut, same, spells, trivial, closes⟩
  case atSign | assignment | newline =>
    obtain ⟨c, after, rfl, rfl, member⟩ := charExtent?_sound found
    exact ⟨[c], after, rfl, rfl, congrArg (· :: []) (beq_iff_eq.mp member), trivial, trivial⟩
  case arithmetic | roundBracket | curlyBracket | separator =>
    obtain ⟨c, after, rfl, rfl, member⟩ := charExtent?_sound found
    exact ⟨[c], after, rfl, rfl, ⟨c, by simpa [or_assoc] using member, rfl⟩, trivial, trivial⟩
  case whitespace =>
    obtain ⟨run, after, rfl, rfl, filled, members, stop⟩ := runExtent?_sound found
    refine ⟨run, after, rfl, rfl, ⟨filled, fun c member => ?_⟩, trivial, stop⟩
    simpa using members c member

end Sound

section Complete

theorem preprocessorExtent?_complete {lexeme after : List Char} (spells : IsDirective lexeme) :
    preprocessorExtent? (lexeme ++ after) = some lexeme.length := by
  obtain ⟨blanks, moreBlanks, header, rfl, members, moreMembers, filled, absent⟩ := spells
  have measured : closedExtent? '>' 1 (header ++ '>' :: after) = some (header.length + 1) :=
    closedExtent?_complete (List.length_pos_iff.mpr filled) absent
  have cut : '#' :: (blanks ++ ("include".toList ++ (moreBlanks ++ '<' :: (header ++ ['>'])))) ++
      after =
      '#' :: (blanks ++ ("include".toList ++ (moreBlanks ++ '<' :: (header ++ '>' :: after)))) := by
    simp
  rw [cut, preprocessorExtent?_of_opening members moreMembers, measured, Option.map_some]
  have name_length : "include".toList.length = 7 := rfl
  simp only [List.length_cons, List.length_append, List.length_nil, name_length,
    Option.some.injEq]
  omega

theorem quotedExtent?_complete {quote : Char} {lexeme after : List Char}
    (spells : IsQuoted quote lexeme) :
    quotedExtent? quote (lexeme ++ after) = some lexeme.length := by
  obtain ⟨body, rfl, absent⟩ := spells
  have measured : closedExtent? quote 0 (body ++ quote :: after) = some (body.length + 1) :=
    closedExtent?_complete (Nat.zero_le _) absent
  rw [List.cons_append, List.append_assoc, quotedExtent?, if_pos rfl]
  simp [measured]

theorem wordExtent?_complete {isWanted : List Char → Bool} {before : Option Char}
    {word after : List Char} (spells : IsWord isWanted word) (opens : opensWord before = true)
    (closes : closesWord after = true) :
    wordExtent? isWanted before (word ++ after) = some word.length := by
  obtain ⟨filled, members, wanted⟩ := spells
  have stop := closesWord_eq_true_iff.mp closes
  simp only [wordExtent?, opens, takeWhile_append_of_stop members stop, wanted]
  simp [filled]

theorem constantExtent?_complete {before : Option Char} {lexeme after : List Char}
    (spells : IsNumber lexeme) (opens : opensWord before = true) (closes : closesWord after = true)
    (longest : '.' ∉ lexeme → ¬ HasFraction after) :
    constantExtent? before (lexeme ++ after) = some lexeme.length := by
  obtain ⟨whole, whole_digits, rfl | ⟨digits, digital, rfl⟩⟩ := spells
  · have noPoint : '.' ∉ lexeme := by
      intro member
      exact absurd (whole_digits.2 '.' member) (by decide)
    rw [constantExtent?_of_whole whole_digits (isDecimalDigit_stop closes) (longest noPoint), opens,
      closes]
    rfl
  · rw [List.append_assoc, List.cons_append,
      constantExtent?_of_fraction whole_digits digital closes, opens]
    rfl

theorem commentExtent?_complete {lexeme after : List Char}
    (spells : IsLineComment lexeme ∨ IsBlockComment lexeme)
    (stop : ['/', '/'] <+: lexeme → after.head?.any (· != '\n') = false) :
    commentExtent? (lexeme ++ after) = some lexeme.length := by
  rcases spells with ⟨body, rfl, line⟩ | ⟨body, rfl, line, first⟩
  · -- Only a line comment asks what follows it.
    have members : ∀ c ∈ body, (c != '\n') = true := by
      intro c member
      rw [bne_iff_ne]
      rintro rfl
      exact line member
    simp only [List.cons_append, commentExtent?,
      takeWhile_append_of_stop members (stop ⟨body, rfl⟩), List.length_cons]
    rw [Nat.add_comm 2]
  · have measured : closingOffset? 0 (body ++ '*' :: '/' :: after) = some body.length :=
      closingOffset?_complete line first
    simp [commentExtent?, measured]

theorem relationalExtent?_complete {lexeme after : List Char} (spells : Spells .relational lexeme)
    (closes : Closes .relational lexeme after) :
    relationalExtent? (lexeme ++ after) = some lexeme.length := by
  rcases spells with ⟨c, member, rfl⟩ | ⟨c, member, rfl⟩
  · simp only [List.mem_cons, List.not_mem_nil, or_false] at member
    rcases member with rfl | rfl | rfl | rfl <;> rfl
  · -- A single sign is read only where no equals sign makes it a longer one.
    have single : ¬ ['='] <+: after := by
      rintro ⟨rest, rfl⟩
      exact closes rfl rfl
    simp only [List.mem_cons, List.not_mem_nil, or_false] at member
    rcases member with rfl | rfl <;> simp [relationalExtent?_eq, single]

theorem extent?_complete {category : Category} {before : Option Char} {lexeme after : List Char}
    (reads : Reads category before lexeme after) :
    extent? category before (lexeme ++ after) = some lexeme.length := by
  obtain ⟨spells, opens, closes⟩ := reads
  cases category <;> rw [extent?]
  case comment => exact commentExtent?_complete spells closes
  case preprocessor => exact preprocessorExtent?_complete spells
  case datatype | keyword | identifier => exact wordExtent?_complete spells opens closes
  case constant => exact constantExtent?_complete spells opens closes.1 closes.2
  case stringLiteral | charLiteral => exact quotedExtent?_complete spells
  case relational => exact relationalExtent?_complete spells closes
  case increment | decrement | atSign | assignment | newline =>
    obtain rfl := spells
    rfl
  case arithmetic | roundBracket | curlyBracket | separator =>
    obtain ⟨c, member, rfl⟩ := spells
    simp only [List.mem_cons, List.not_mem_nil, or_false] at member
    simp [charExtent?, member, or_assoc]
  case whitespace =>
    obtain ⟨filled, members⟩ := spells
    have inside : ∀ c ∈ lexeme, (c == ' ' || c == '\t') = true :=
      fun c member => by simpa using members c member
    simp [runExtent?, takeWhile_append_of_stop inside closes, filled]

theorem extent?_eq_some_iff {category : Category} {before : Option Char}
    {lexeme after : List Char} :
    extent? category before (lexeme ++ after) = some lexeme.length ↔
      Reads category before lexeme after := by
  constructor
  · intro found
    obtain ⟨measured, rest, cut, same, reads⟩ := extent?_sound found
    obtain ⟨rfl, rfl⟩ := List.append_inj cut same.symm
    exact reads
  · exact extent?_complete

theorem extent?_eq_none_iff {category : Category} {before : Option Char} {rest : List Char} :
    extent? category before rest = none ↔
      ∀ lexeme after, rest = lexeme ++ after → ¬ Reads category before lexeme after := by
  constructor
  · rintro noMatch lexeme after rfl reads
    rw [extent?_complete reads] at noMatch
    contradiction
  · intro noReading
    cases found : extent? category before rest with
    | none => rfl
    | some length =>
      obtain ⟨lexeme, after, cut, -, reads⟩ := extent?_sound found
      exact absurd reads (noReading lexeme after cut)

end Complete

end LexReport.Scan
