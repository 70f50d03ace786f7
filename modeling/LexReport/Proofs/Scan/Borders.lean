import LexReport.Proofs.Scan.Reading
import Mathlib.Data.List.Basic

/-! Where lexemes begin and end, and what a rule still reads when the text around its lexeme
changes. All that matters at a border is whether it lies inside a word. -/

set_option autoImplicit false

namespace LexReport.Scan

open Text

/-- A place with a word character on both sides. -/
def InsideWord (before : Option Char) (rest : List Char) : Prop :=
  before.any isWordChar = true ∧ rest.head?.any isWordChar = true

section Leads

def leads : Category → Char → Bool
  | .comment, c => c == '/'
  | .preprocessor, c => c == '#'
  | .atSign, c => c == '@'
  | .datatype, c | .keyword, c | .identifier, c => isIdentifierStart c
  | .constant, c => isDecimalDigit c
  | .stringLiteral, c => c == '"'
  | .charLiteral, c => c == '\''
  | .increment, c => c == '+'
  | .decrement, c => c == '-'
  | .assignment, c => c == '='
  | .arithmetic, c => ['+', '-', '*', '/'].contains c
  | .relational, c => ['>', '<', '=', '!'].contains c
  | .roundBracket, c => ['(', ')'].contains c
  | .curlyBracket, c => ['\x7b', '\x7d'].contains c
  | .separator, c => [';', ',', ':'].contains c
  | .whitespace, c => [' ', '\t'].contains c
  | .newline, c => c == '\n'

def isWordlike : Category → Bool
  | .datatype | .keyword | .identifier | .constant => true
  | _ => false

theorem IsWord.leads_of_listed {words : List String} {lexeme : List Char}
    (spells : IsWord (fun word => words.contains (String.ofList word)) lexeme)
    (started : ∀ word ∈ words, word.toList.head?.any isIdentifierStart = true) :
    lexeme.head?.any isIdentifierStart = true := by
  have listed : String.ofList lexeme ∈ words := by simpa using spells.2.2
  simpa using started _ listed

theorem Spells.leads {category : Category} {lexeme : List Char} (spells : Spells category lexeme) :
    lexeme.head?.any (Scan.leads category) = true := by
  cases category
  case comment => rcases spells with ⟨body, rfl, -⟩ | ⟨body, rfl, -⟩ <;> rfl
  case preprocessor =>
    obtain ⟨blanks, moreBlanks, header, rfl, -⟩ := spells
    rfl
  case datatype => exact spells.leads_of_listed (by decide)
  case keyword => exact spells.leads_of_listed (by decide)
  case identifier =>
    obtain ⟨-, -, wanted⟩ := spells
    cases lexeme with
    | nil => contradiction
    | cons c lexeme => exact ((Bool.and_eq_true _ _).mp wanted).1
  case constant =>
    obtain ⟨whole, ⟨filled, digital⟩, spelled⟩ := spells
    cases whole with
    | nil => contradiction
    | cons c whole =>
      have digit := digital c List.mem_cons_self
      rcases spelled with rfl | ⟨digits, -, rfl⟩ <;> exact digit
  case stringLiteral | charLiteral =>
    obtain ⟨body, rfl, -⟩ := spells
    rfl
  case relational =>
    rcases spells with ⟨c, member, rfl⟩ | ⟨c, member, rfl⟩
    · simpa [Scan.leads] using member
    · simp only [List.mem_cons, List.not_mem_nil, or_false] at member
      rcases member with rfl | rfl <;> rfl
  case arithmetic | roundBracket | curlyBracket | separator =>
    obtain ⟨c, member, rfl⟩ := spells
    simpa [Scan.leads] using member
  case whitespace =>
    obtain ⟨filled, members⟩ := spells
    cases lexeme with
    | nil => contradiction
    | cons c lexeme => simpa [Scan.leads] using members c List.mem_cons_self
  case atSign | increment | decrement | assignment | newline =>
    obtain rfl := spells
    rfl

theorem not_isWordChar_of_leads {category : Category} (other : isWordlike category = false)
    {c : Char} (leading : leads category c = true) : isWordChar c = false := by
  cases category <;> simp [isWordlike, leads] at other leading
  case arithmetic => rcases leading with rfl | rfl | rfl | rfl <;> decide
  case relational => rcases leading with rfl | rfl | rfl | rfl <;> decide
  case separator => rcases leading with rfl | rfl | rfl <;> decide
  case roundBracket | curlyBracket | whitespace => rcases leading with rfl | rfl <;> decide
  all_goals
    subst leading
    decide

theorem isWordChar_of_leads {category : Category} (wordlike : isWordlike category = true) {c : Char}
    (leading : leads category c = true) : isWordChar c = true := by
  cases category
  case datatype | keyword | identifier =>
    exact isWordChar_of_isIdentifierChar (isIdentifierChar_of_isIdentifierStart leading)
  case constant => exact isWordChar_of_isDecimalDigit leading
  all_goals contradiction

end Leads

section Ends

theorem getLast?_of_ends {lexeme ends : List Char} (outside : ends.any isWordChar = false)
    (start : List Char) {c : Char} (member : c ∈ ends) (same : lexeme = start ++ [c]) :
    lexeme.getLast?.any isWordChar = false := by
  rw [same, List.getLast?_concat, Option.any_some]
  exact Bool.eq_false_iff.mpr (List.any_eq_false.mp outside c member)

theorem Spells.getLast? {category : Category} {lexeme : List Char} (spells : Spells category lexeme)
    (other : isWordlike category = false)
    (noLine : category = .comment → ¬ ['/', '/'] <+: lexeme) :
    lexeme.getLast?.any isWordChar = false := by
  have closing : ['/', '>', '"', '\'', '='].any isWordChar = false := by decide
  cases category
  case comment =>
    rcases spells with ⟨body, rfl, -⟩ | ⟨body, rfl, -⟩
    · -- A line comment may end with any character.
      exact absurd ⟨body, rfl⟩ (noLine rfl)
    · apply getLast?_of_ends closing ('/' :: '*' :: (body ++ ['*']))
      · exact List.mem_cons_self
      · simp
  case preprocessor =>
    obtain ⟨blanks, moreBlanks, header, rfl, -⟩ := spells
    apply getLast?_of_ends closing
      ('#' :: (blanks ++ ("include".toList ++ (moreBlanks ++ '<' :: header))))
    · exact List.mem_cons_of_mem _ List.mem_cons_self
    · simp
  case datatype | keyword | identifier | constant => contradiction
  case stringLiteral | charLiteral =>
    obtain ⟨body, rfl, -⟩ := spells
    exact getLast?_of_ends closing (_ :: body) (by decide) rfl
  case relational =>
    rcases spells with ⟨c, -, rfl⟩ | ⟨c, member, rfl⟩
    · exact getLast?_of_ends closing [c] (by decide) rfl
    · exact getLast?_of_ends (by decide) [] member rfl
  case arithmetic | roundBracket | curlyBracket | separator =>
    obtain ⟨c, member, rfl⟩ := spells
    exact getLast?_of_ends (by decide) [] member rfl
  case whitespace =>
    obtain ⟨filled, members⟩ := spells
    have last := members _ (List.getLast_mem filled)
    exact getLast?_of_ends (by decide) _ last (List.dropLast_concat_getLast filled).symm
  case atSign | increment | decrement | assignment | newline =>
    obtain rfl := spells
    decide

end Ends

section Borders

variable {category : Category} {before : Option Char} {lexeme after : List Char}

theorem Reads.filled (reads : Reads category before lexeme after) : lexeme ≠ [] := by
  rintro rfl
  exact absurd reads.spells.leads (by simp)

theorem Reads.starts (reads : Reads category before lexeme after) :
    ∃ c, lexeme.head? = some c ∧ leads category c = true :=
  (Option.any_eq_true _ _).mp reads.spells.leads

theorem Reads.not_insideWord_before (reads : Reads category before lexeme after) :
    ¬ InsideWord before (lexeme ++ after) := by
  rintro ⟨wordBefore, wordAfter⟩
  rw [List.head?_append_of_ne_nil _ reads.filled] at wordAfter
  cases kind : isWordlike category with
  | true =>
    have opens : opensWord before = true := by
      have opens := reads.opens
      cases category <;> first | exact opens | contradiction
    simp [opensWord, wordBefore] at opens
  | false =>
    obtain ⟨c, starts, leading⟩ := reads.starts
    rw [starts, Option.any_some, not_isWordChar_of_leads kind leading] at wordAfter
    contradiction

theorem Reads.behind (reads : Reads category before lexeme after) {other : Option Char}
    (border : ¬ InsideWord other (lexeme ++ after)) : Reads category other lexeme after := by
  -- Only words and numbers ask what comes before them, and they begin with a word character.
  refine ⟨reads.spells, ?_, reads.closes⟩
  cases kind : isWordlike category with
  | true =>
    obtain ⟨c, starts, leading⟩ := reads.starts
    have opens : opensWord other = true := by
      rw [opensWord, Bool.not_eq_true', Bool.eq_false_iff]
      intro wordBefore
      refine border ⟨wordBefore, ?_⟩
      rw [List.head?_append_of_ne_nil _ reads.filled, starts]
      exact isWordChar_of_leads kind leading
    cases category <;> first | exact opens | contradiction
  | false => cases category <;> first | exact trivial | contradiction

theorem head?_of_line_end {after : List Char} (stop : after.head?.any (· != '\n') = false) :
    after.head?.any isWordChar = false := by
  cases after with
  | nil => rfl
  | cons c after =>
    have newline : c = '\n' := by simpa using stop
    subst newline
    show isWordChar '\n' = false
    decide

theorem Reads.not_insideWord_after (reads : Reads category before lexeme after) :
    ¬ InsideWord lexeme.getLast? after := by
  rintro ⟨wordBefore, wordAfter⟩
  cases kind : isWordlike category with
  | true =>
    have closes : closesWord after = true := by
      have closes := reads.closes
      cases category <;> first | exact closes | exact closes.1 | contradiction
    simp [closesWord, wordAfter] at closes
  | false =>
    -- A line comment ends before a line feed; what else is no word ends with a closing sign.
    by_cases line : category = .comment ∧ ['/', '/'] <+: lexeme
    · obtain ⟨rfl, line⟩ := line
      rw [head?_of_line_end (reads.closes line)] at wordAfter
      contradiction
    · rw [reads.spells.getLast? kind] at wordBefore
      · contradiction
      · exact fun comment starts => line ⟨comment, starts⟩

theorem closesWord_append {first rest : List Char} (closes : closesWord first = true)
    (border : first = [] → closesWord rest = true) : closesWord (first ++ rest) = true := by
  cases first with
  | nil => exact border rfl
  | cons c first => exact closes

theorem closesWord_of_append {first rest : List Char} (closes : closesWord (first ++ rest) = true) :
    closesWord first = true := by
  cases first with
  | nil => rfl
  | cons c first => exact closes

theorem getLast?_of_inside {word : List Char} (filled : word ≠ [])
    (inside : ∀ c ∈ word, isWordChar c = true) : word.getLast?.any isWordChar = true := by
  rw [List.getLast?_eq_some_getLast filled]
  exact inside _ (List.getLast_mem filled)

/-- A word that ends where a text does still ends there before a text with which it is no longer
word. -/
theorem closesWord_of_border {word rest : List Char} (inside : word.getLast?.any isWordChar = true)
    (border : ¬ InsideWord word.getLast? rest) : closesWord rest = true := by
  rw [closesWord_eq_true_iff, Bool.eq_false_iff]
  exact fun follows => border ⟨inside, follows⟩

end Borders

section Surroundings

variable {category : Category} {before : Option Char} {lexeme after more : List Char}

theorem IsDigits.getLast? {digits : List Char} (digital : IsDigits digits) :
    digits.getLast?.any isWordChar = true :=
  getLast?_of_inside digital.1 fun c member => isWordChar_of_isDecimalDigit (digital.2 c member)

theorem IsNumber.getLast? {lexeme : List Char} (spells : IsNumber lexeme) :
    lexeme.getLast?.any isWordChar = true := by
  obtain ⟨whole, whole_digits, rfl | ⟨digits, digital, rfl⟩⟩ := spells
  · exact whole_digits.getLast?
  · rw [← List.singleton_append, ← List.append_assoc, List.getLast?_append_of_ne_nil _ digital.1]
    exact digital.getLast?

theorem HasFraction.append (fraction : HasFraction after)
    (border : ¬ InsideWord after.getLast? more) : HasFraction (after ++ more) := by
  obtain ⟨digits, rest, rfl, digital, closes⟩ := fraction
  refine ⟨digits, rest ++ more, by simp, digital, closesWord_append closes ?_⟩
  rintro rfl
  have inside : ('.' :: (digits ++ [])).getLast?.any isWordChar = true := by
    rw [List.append_nil, ← List.singleton_append, List.getLast?_append_of_ne_nil _ digital.1]
    exact digital.getLast?
  exact closesWord_of_border inside border

theorem insideWord_append (filled : after ≠ []) (first : List Char) :
    InsideWord (first ++ after).getLast? more ↔ InsideWord after.getLast? more := by
  rw [List.getLast?_append_of_ne_nil _ filled]

theorem head?_any_of_append {first rest : List Char} {isMember : Char → Bool}
    (stop : (first ++ rest).head?.any isMember = false) : first.head?.any isMember = false := by
  cases first with
  | nil => rfl
  | cons c first => exact stop

theorem Reads.shortened (reads : Reads category before lexeme (after ++ more))
    (border : ¬ InsideWord (lexeme ++ after).getLast? more) :
    Reads category before lexeme after := by
  obtain ⟨spells, opens, closes⟩ := reads
  refine ⟨spells, opens, ?_⟩
  cases category
  case comment => exact fun line => head?_any_of_append (closes line)
  case datatype | keyword | identifier => exact closesWord_of_append closes
  case constant =>
    -- A fraction before the cut would be one in the whole text, since the cut is not in a word.
    refine ⟨closesWord_of_append closes.1, fun noPoint fraction => closes.2 noPoint ?_⟩
    have filled : after ≠ [] := by
      obtain ⟨digits, rest, rfl, -⟩ := fraction
      exact List.cons_ne_nil _ _
    rw [insideWord_append filled] at border
    exact fraction.append border
  case relational =>
    intro single equals
    obtain ⟨rest, rfl⟩ := List.head?_eq_some_iff.mp equals
    exact closes single rfl
  case whitespace => exact head?_any_of_append closes
  all_goals exact trivial

theorem Reads.extended (reads : Reads category before lexeme after)
    (border : ¬ InsideWord (lexeme ++ after).getLast? more) :
    ∃ longer rest, lexeme ++ (after ++ more) = longer ++ rest ∧
      Reads category before longer rest := by
  obtain ⟨spells, opens, closes⟩ := reads
  cases category
  case comment =>
    -- Only a line comment that the end of the text cuts off goes on.
    by_cases line : IsLineComment lexeme ∧ after = []
    · obtain ⟨⟨body, rfl, noBreak⟩, rfl⟩ := line
      obtain ⟨run, rest, rfl, members, stop, -⟩ := run_split (· != '\n') more
      refine ⟨'/' :: '/' :: (body ++ run), rest, by simp, .inl ⟨_, rfl, ?_⟩, trivial, fun _ => stop⟩
      rw [List.mem_append, not_or]
      exact ⟨noBreak, fun member => by simpa using members '\n' member⟩
    · refine ⟨lexeme, after ++ more, rfl, spells, trivial, fun starts => ?_⟩
      have filled : after ≠ [] := by
        rintro rfl
        rcases spells with spells | ⟨body, rfl, -⟩
        · exact line ⟨spells, rfl⟩
        · simp at starts
      rw [List.head?_append_of_ne_nil _ filled]
      exact closes starts
  case datatype | keyword | identifier =>
    refine ⟨lexeme, after ++ more, rfl, spells, opens, closesWord_append closes ?_⟩
    rintro rfl
    rw [List.append_nil] at border
    exact closesWord_of_border (getLast?_of_inside spells.1 spells.2.1) border
  case constant =>
    have ends : closesWord (after ++ more) = true := by
      refine closesWord_append closes.1 ?_
      rintro rfl
      rw [List.append_nil] at border
      exact closesWord_of_border (IsNumber.getLast? spells) border
    -- The point and the digits of a fraction may lie on both sides of the border.
    by_cases longer : '.' ∉ lexeme ∧ HasFraction (after ++ more)
    · obtain ⟨noPoint, digits, rest, same, digital, closes⟩ := longer
      obtain ⟨whole, whole_digits, rfl | ⟨others, -, rfl⟩⟩ := spells
      · refine ⟨lexeme ++ '.' :: digits, rest, by rw [same]; simp, ?_, opens, closes, ?_⟩
        · exact ⟨lexeme, whole_digits, .inr ⟨digits, digital, rfl⟩⟩
        · exact fun noPoint => absurd (by simp) noPoint
      · exact absurd (by simp) noPoint
    · refine ⟨lexeme, after ++ more, rfl, spells, opens, ends, fun noPoint fraction => ?_⟩
      exact longer ⟨noPoint, fraction⟩
  case relational =>
    -- One sign at the end of a text may be the first of two.
    by_cases longer : lexeme.length = 1 ∧ (after ++ more).head? = some '='
    · obtain ⟨single, equals⟩ := longer
      obtain ⟨rest, same⟩ := List.head?_eq_some_iff.mp equals
      rcases spells with ⟨c, -, rfl⟩ | ⟨c, member, rfl⟩
      · simp at single
      · refine ⟨[c, '='], rest, by rw [same]; rfl, .inl ⟨c, ?_, rfl⟩, trivial, fun two => ?_⟩
        · simp only [List.mem_cons, List.not_mem_nil, or_false] at member ⊢
          exact member.imp_right .inl
        · simp at two
    · refine ⟨lexeme, after ++ more, rfl, spells, trivial, fun single equals => ?_⟩
      exact longer ⟨single, equals⟩
  case whitespace =>
    -- Blanks that reach the end of the text go on with those behind it.
    cases after with
    | cons c after => exact ⟨lexeme, c :: after ++ more, rfl, spells, trivial, closes⟩
    | nil =>
      obtain ⟨run, rest, rfl, members, stop, -⟩ := run_split (fun c => c == ' ' || c == '\t') more
      refine ⟨lexeme ++ run, rest, by simp, ⟨by simp [spells.1], fun c member => ?_⟩, trivial, stop⟩
      rcases List.mem_append.mp member with member | member
      · exact spells.2 c member
      · simpa using members c member
  all_goals exact ⟨lexeme, after ++ more, rfl, spells, opens, trivial⟩

end Surroundings

end LexReport.Scan
