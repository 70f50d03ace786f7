import LexReport.Proofs.Text.Runs
import LexReport.Scan.Rule

/-! How the measures of the rules see a text that is already cut into the parts they look for. -/

set_option autoImplicit false

namespace LexReport.Scan

open Text

section Words

theorem closesWord_eq_true_iff {rest : List Char} :
    closesWord rest = true ↔ rest.head?.any isWordChar = false := by
  rw [closesWord, Bool.not_eq_true']

theorem closesWord_append_iff {word after : List Char}
    (inside : ∀ c ∈ word, isWordChar c = true) :
    closesWord after = true ↔ (word ++ after).takeWhile isWordChar = word := by
  rw [closesWord_eq_true_iff]
  constructor
  · exact takeWhile_append_of_stop inside
  · intro taken
    exact (run_length_iff.mp (congrArg List.length taken)).2

theorem isDecimalDigit_stop {rest : List Char} (closes : closesWord rest = true) :
    rest.head?.any isDecimalDigit = false := by
  cases rest with
  | nil => rfl
  | cons c rest =>
    by_contra digit
    have digit : isDecimalDigit c = true := by simpa using digit
    simp [closesWord, isWordChar_of_isDecimalDigit digit] at closes

theorem isIdentifierStart_eq (c : Char) :
    isIdentifierStart c = (decide ('A'.val ≤ c.val ∧ c.val ≤ 'Z'.val) ||
      decide ('a'.val ≤ c.val) && decide (c.val ≤ 'z'.val) || c == '_') := rfl

theorem isIdentifierChar_eq (c : Char) :
    isIdentifierChar c = (decide ('A'.val ≤ c.val ∧ c.val ≤ 'Z'.val) ||
      decide ('a'.val ≤ c.val) && decide (c.val ≤ 'z'.val) ||
      decide ('0'.val ≤ c.val) && decide (c.val ≤ '9'.val) || c == '_') := rfl

theorem isIdentifierChar_lt {c : Char} (member : isIdentifierChar c = true) : c.toNat < 0x80 := by
  rw [isIdentifierChar_eq] at member
  simp only [Bool.or_eq_true, Bool.and_eq_true, decide_eq_true_eq, beq_iff_eq,
    UInt32.le_iff_toNat_le] at member
  rcases member with ((⟨-, upper⟩ | ⟨-, upper⟩) | ⟨-, upper⟩) | rfl
  · exact upper.trans_lt (by decide)
  · exact upper.trans_lt (by decide)
  · exact upper.trans_lt (by decide)
  · decide

theorem isWordChar_of_isIdentifierChar {c : Char} (member : isIdentifierChar c = true) :
    isWordChar c = true := by
  rw [isWordChar, if_pos (isIdentifierChar_lt member)]
  exact member

theorem isIdentifierChar_of_isIdentifierStart {c : Char} (member : isIdentifierStart c = true) :
    isIdentifierChar c = true := by
  simp only [isIdentifierStart, Bool.or_eq_true] at member
  simp only [isIdentifierChar, Char.isAlphanum, Bool.or_eq_true]
  exact member.imp_left .inl

theorem isIdentifierWord_run {c : Char} {run after : List Char} (word : isWordChar c = true)
    (members : ∀ d ∈ run, isIdentifierChar d = true)
    (stop : after.head?.any isIdentifierChar = false) :
    isIdentifierWord ((c :: (run ++ after)).takeWhile isWordChar) =
        (isIdentifierStart c && closesWord after) ∧
      (closesWord after = true →
        (c :: (run ++ after)).takeWhile isWordChar = c :: run) := by
  have inside : ∀ d ∈ run, isWordChar d = true :=
    fun d member => isWordChar_of_isIdentifierChar (members d member)
  rw [List.takeWhile_cons_of_pos word, List.takeWhile_append_of_pos inside]
  cases after with
  | nil => simpa [closesWord, isIdentifierWord] using fun _ => members
  | cons d after =>
    have outside : isIdentifierChar d = false := by simpa using stop
    -- A word that goes on behind the run holds a character that no identifier has.
    by_cases follows : isWordChar d = true
    · simp [closesWord, isIdentifierWord, follows, outside]
    · simpa [closesWord, isIdentifierWord, follows] using fun _ => members

end Words

section Constants

theorem fractionDigits_of_ne {c : Char} (differ : c ≠ '.') (rest : List Char) :
    fractionDigits (c :: rest) = 0 := by
  unfold fractionDigits
  split
  · rename_i equal
    exact absurd (List.cons.inj equal).1 differ
  · rfl

theorem fractionDigits_point (rest : List Char) :
    fractionDigits ('.' :: rest) = (rest.takeWhile isDecimalDigit).length := rfl

theorem constantExtent?_run {before : Option Char} {run after : List Char}
    (filled : run ≠ []) (members : ∀ c ∈ run, isDecimalDigit c = true)
    (stop : after.head?.any isDecimalDigit = false) :
    constantExtent? before (run ++ after) =
      if opensWord before then
        if fractionDigits after != 0 && closesWord (after.drop (1 + fractionDigits after)) then
          some (run.length + (1 + fractionDigits after))
        else if closesWord after then some run.length else none
      else none := by
  have some : (run.length == 0) = false := by simpa using filled
  rw [constantExtent?, takeWhile_append_of_stop members stop, List.drop_left, some, Nat.add_assoc]
  cases opensWord before <;> simp

theorem constantExtent?_of_not_digit {before : Option Char} {rest : List Char}
    (stop : rest.head?.any isDecimalDigit = false) : constantExtent? before rest = none := by
  rw [constantExtent?, takeWhile_of_stop stop]
  simp

end Constants

section Closed

theorem closedExtent?_run {close : Char} {least : Nat} {run after : List Char}
    (members : ∀ c ∈ run, (c != close) = true) (stop : after.head?.any (· != close) = false) :
    closedExtent? close least (run ++ after) =
      if run.length < least || after.isEmpty then none else some (run.length + 1) := by
  simp only [closedExtent?, takeWhile_append_of_stop members stop, List.drop_left]

theorem closingOffset?_cons (offset : Nat) (c : Char) (rest : List Char) :
    closingOffset? offset (c :: rest) =
      if ['*', '/'] <+: c :: rest then some offset
      else if c = '\n' then none else closingOffset? (offset + 1) rest := by
  rw [closingOffset?.eq_def]
  split
  · rename_i equal
    simp at equal
  · rename_i equal
    simp [equal]
  · rename_i noClose equal
    obtain ⟨rfl, rfl⟩ := List.cons.inj equal
    have differ : ¬ ['*', '/'] <+: c :: rest := by
      rintro ⟨after, same⟩
      obtain ⟨rfl, rfl⟩ := List.cons.inj same
      exact noClose after rfl rfl
    rw [if_neg differ]

theorem closingOffset?_add (offset : Nat) (rest : List Char) :
    closingOffset? offset rest = (closingOffset? 0 rest).map (offset + ·) := by
  induction rest generalizing offset with
  | nil => rfl
  | cons c rest ih =>
    rw [closingOffset?_cons, closingOffset?_cons, ih (offset + 1), ih (0 + 1)]
    split
    · rfl
    · split
      · rfl
      · cases closingOffset? 0 rest <;> simp [Nat.add_assoc]

theorem commentExtent?_of_not_opened {rest : List Char} (line : ¬ ['/', '/'] <+: rest)
    (block : ¬ ['/', '*'] <+: rest) : commentExtent? rest = none := by
  unfold commentExtent?
  split
  · exact absurd ⟨_, rfl⟩ line
  · exact absurd ⟨_, rfl⟩ block
  · rfl

end Closed

section Directive

theorem afterWord?_append (word rest : List Char) : afterWord? word (word ++ rest) = some rest := by
  induction word with
  | nil => rfl
  | cons c word ih => simp [afterWord?, ih]

theorem afterWord?_of_not_prefix {word rest : List Char} (differ : ¬ word <+: rest) :
    afterWord? word rest = none := by
  induction word generalizing rest with
  | nil => exact absurd List.nil_prefix differ
  | cons c word ih =>
    cases rest with
    | nil => rfl
    | cons d rest =>
      rw [afterWord?]
      split
      · rename_i same
        rw [List.cons_prefix_cons] at differ
        exact ih fun starts => differ ⟨same, starts⟩
      · rfl

theorem preprocessorExtent?_of_not_hash {rest : List Char} (differ : rest.head? ≠ some '#') :
    preprocessorExtent? rest = none := by
  unfold preprocessorExtent?
  split
  · exact absurd rfl differ
  · rfl

theorem preprocessorExtent?_of_no_name {blanks rest : List Char}
    (members : ∀ c ∈ blanks, isBlank c = true) (stop : rest.head?.any isBlank = false)
    (noName : ¬ "include".toList <+: rest) :
    preprocessorExtent? ('#' :: (blanks ++ rest)) = none := by
  simp only [preprocessorExtent?, takeWhile_append_of_stop members stop, List.drop_left,
    afterWord?_of_not_prefix noName]
  rfl

theorem name_starts_no_blank (rest : List Char) :
    ("include".toList ++ rest).head?.any isBlank = false := by
  show isBlank 'i' = false
  decide

theorem preprocessorExtent?_of_no_opening {blanks moreBlanks rest : List Char}
    (members : ∀ c ∈ blanks, isBlank c = true) (moreMembers : ∀ c ∈ moreBlanks, isBlank c = true)
    (stop : rest.head?.any isBlank = false) (noOpening : rest.head? ≠ some '<') :
    preprocessorExtent? ('#' :: (blanks ++ ("include".toList ++ (moreBlanks ++ rest)))) = none := by
  simp only [preprocessorExtent?, takeWhile_append_of_stop members (name_starts_no_blank _),
    List.drop_left, afterWord?_append, takeWhile_append_of_stop moreMembers stop,
    Option.bind_eq_bind, Option.bind_some]
  split
  · exact absurd rfl noOpening
  · rfl

theorem preprocessorExtent?_of_opening {blanks moreBlanks : List Char}
    (members : ∀ c ∈ blanks, isBlank c = true) (moreMembers : ∀ c ∈ moreBlanks, isBlank c = true)
    (header : List Char) :
    preprocessorExtent?
        ('#' :: (blanks ++ ("include".toList ++ (moreBlanks ++ '<' :: header)))) =
      (closedExtent? '>' 1 header).map (blanks.length + moreBlanks.length + 9 + ·) := by
  have stop : ('<' :: header).head?.any isBlank = false := by
    show isBlank '<' = false
    decide
  simp only [preprocessorExtent?, takeWhile_append_of_stop members (name_starts_no_blank _),
    List.drop_left, afterWord?_append, takeWhile_append_of_stop moreMembers stop,
    Option.bind_eq_bind, Option.bind_some]
  cases closedExtent? '>' 1 header with
  | none => rfl
  | some closed =>
    simp only [Option.bind_some, Option.pure_def, Option.map_some, Option.some.injEq]
    omega

end Directive

theorem relationalExtent?_eq (rest : List Char) :
    relationalExtent? rest =
      [">=", "<=", "==", "!=", ">", "<"].findSome? fun word =>
        if word.toList <+: rest then some word.toList.length else none := by
  unfold relationalExtent?
  split
  iterate 4 simp
  iterate 2
    rename_i more notBoth
    have alone : ¬ ['='] <+: more := by
      rintro ⟨after, rfl⟩
      exact notBoth after rfl
    simp [alone]
  -- What is left is a text in front of which none of the signs stands.
  rename_i notAtLeast notAtMost notEqual notUnequal notMore notLess
  symm
  rw [List.findSome?_eq_none_iff]
  intro word member
  rw [if_neg]
  rintro ⟨after, rfl⟩
  simp only [List.mem_cons, List.not_mem_nil, or_false] at member
  rcases member with rfl | rfl | rfl | rfl | rfl | rfl
  · exact notAtLeast after rfl
  · exact notAtMost after rfl
  · exact notEqual after rfl
  · exact notUnequal after rfl
  · exact notMore after rfl
  · exact notLess after rfl

end LexReport.Scan
