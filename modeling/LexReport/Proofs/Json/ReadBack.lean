import LexReport.Json.Reader
import LexReport.Proofs.Json.Written
import LexReport.Proofs.Text.Runs

/-! Whatever value is written, it is read again, on one line or indented. -/

set_option autoImplicit false

namespace LexReport.Json

section Texts

theorem readText?_ordinary {c : Char} (notQuote : c ≠ '"') (notBackslash : c ≠ '\\')
    (shown : ¬ c.toNat < 0x20) (progress : TextProgress) (rest : List Char) :
    readText? progress (c :: rest) = readText? (progress.push c) rest := by
  rw [readText?]
  · rw [if_neg (by simp [notBackslash, shown])]
  · exact notQuote
  · intro a b d e more same
    exact absurd same notBackslash
  · intro d more same
    exact absurd same notBackslash

theorem readText?_short {c meant : Char} (short : shortEscape? c = some meant)
    (progress : TextProgress) (rest : List Char) :
    readText? progress ('\\' :: c :: rest) = readText? (progress.push meant) rest := by
  rw [readText?]
  · rw [short]
  · -- No short escape is spelled like the start of a code unit.
    rintro a b d e more rfl
    contradiction

/-- The last two digits of a code unit are enough for a control character. -/
theorem toList_controlEscape : ∀ n < 0x20,
    (controlEscape (Char.ofNat n)).toList =
        ['\\', 'u', '0', '0', (n / 16).digitChar, (n % 16).digitChar] ∧
      codeUnit? '0' '0' (n / 16).digitChar (n % 16).digitChar = some n := by
  decide

theorem readText?_control {c : Char} (control : c.toNat < 0x20) (progress : TextProgress)
    (rest : List Char) :
    readText? progress ((controlEscape c).toList ++ rest) = readText? (progress.push c) rest := by
  obtain ⟨spelled, meant⟩ := toList_controlEscape c.toNat control
  rw [Char.ofNat_toNat] at spelled
  have noHalf : progress.pushUnit c.toNat = progress.push c := by
    rw [TextProgress.pushUnit, if_neg (by omega), if_neg (by omega), Char.ofNat_toNat]
  rw [spelled]
  show readText? progress ('\\' :: 'u' :: '0' :: '0' :: _ :: _ :: rest) = _
  rw [readText?, meant]
  dsimp only
  rw [noHalf]

def shortEscaped : List Char := ['"', '\\', '\x08', '\t', '\n', '\x0c', '\r']

theorem escapedChar_of_not_short {c : Char} (notShort : c ∉ shortEscaped) :
    escapedChar c = if c.toNat < 0x20 then controlEscape c else c.toString := by
  simp only [shortEscaped, List.mem_cons, List.not_mem_nil, or_false, not_or] at notShort
  simp only [escapedChar, notShort, if_false]

theorem readText?_escapedChar (c : Char) (progress : TextProgress) (rest : List Char) :
    readText? progress ((escapedChar c).toList ++ rest) = readText? (progress.push c) rest := by
  by_cases short : c ∈ shortEscaped
  · simp only [shortEscaped, List.mem_cons, List.not_mem_nil, or_false] at short
    rcases short with rfl | rfl | rfl | rfl | rfl | rfl | rfl <;>
      exact readText?_short rfl progress rest
  · rw [escapedChar_of_not_short short]
    split
    · rename_i control
      exact readText?_control control progress rest
    · rename_i shown
      have notQuote : c ≠ '"' := fun same => short (by rw [same]; decide)
      have notBackslash : c ≠ '\\' := fun same => short (by rw [same]; decide)
      show readText? progress (c.toString.toList ++ rest) = _
      rw [Char.toString_eq_singleton, String.toList_singleton]
      exact readText?_ordinary notQuote notBackslash shown progress rest

theorem readText?_escapedChars (read text rest : List Char) :
    readText? ⟨read, none, false⟩
        (text.flatMap (fun c => (escapedChar c).toList) ++ '"' :: rest) =
      some (some (String.ofList (read.reverse ++ text)), rest) := by
  induction text generalizing read with
  | nil =>
    rw [List.append_nil]
    rfl
  | cons c text ih =>
    rw [List.flatMap_cons, List.append_assoc, readText?_escapedChar]
    show readText? ⟨c :: read, none, false⟩ _ = _
    rw [ih, List.reverse_cons, List.append_assoc]
    rfl

/-- A text is read up to its closing quote, whether it is well formed or not. -/
theorem readText?_textChars (value : Option String) (rest : List Char) :
    ∃ inner, textChars value ++ rest = '"' :: inner ∧
      readText? .empty inner = some (value, rest) := by
  cases value with
  | none => exact ⟨['\\', 'u', 'd', '8', '0', '0', '"'] ++ rest, rfl, rfl⟩
  | some s =>
    refine ⟨escapedChars s ++ '"' :: rest, by simp [textChars], ?_⟩
    have read := readText?_escapedChars [] s.toList rest
    rw [List.reverse_nil, List.nil_append, String.ofList_toList] at read
    exact read

end Texts

section Numbers

def EndsNumber (rest : List Char) : Prop :=
  rest.head?.any (fun c => c.isDigit || c == '.' || c == 'e' || c == 'E') = false

theorem EndsNumber.no_digit {rest : List Char} (ends : EndsNumber rest) :
    rest.head?.any Char.isDigit = false := by
  cases rest with
  | nil => rfl
  | cons c rest =>
    simp only [EndsNumber, List.head?_cons, Option.any_some, Bool.or_eq_false_iff] at ends ⊢
    exact ends.1.1.1

theorem readDigits?_append {digits rest : List Char} (filled : digits ≠ [])
    (inside : ∀ c ∈ digits, c.isDigit = true) (stop : rest.head?.any Char.isDigit = false) :
    readDigits? (digits ++ rest) = some (digits, rest) := by
  rw [readDigits?, Text.takeWhile_append_of_stop inside stop, List.drop_left]
  simp [filled]

theorem natOfDigits_toDigits (n : Nat) : natOfDigits (Nat.toDigits 10 n) = n := by
  have same := @Nat.ofDigitChars_ten_toDigits n
  rw [Nat.ofDigitChars_eq_foldl] at same
  simp only [natOfDigits, Nat.mul_comm _ 10]
  exact same

theorem isDigit_of_mem_toDigits {n : Nat} {c : Char} (member : c ∈ Nat.toDigits 10 n) :
    c.isDigit = true :=
  Nat.isDigit_of_mem_toDigits (by decide) (by decide) member

theorem head?_toDigits {n : Nat} (filled : n ≠ 0) : (Nat.toDigits 10 n).head? ≠ some '0' := by
  induction n using Nat.strong_induction_on with
  | _ n ih =>
    rw [Nat.toDigits_eq_if (by decide)]
    split
    · rename_i small
      have unlike : ∀ m < 10, m ≠ 0 → some m.digitChar ≠ some '0' := by decide
      exact unlike n small filled
    · rename_i large
      rw [List.head?_append_of_ne_nil _ Nat.toDigits_ne_nil]
      exact ih (n / 10) (by omega) (by omega)

theorem readWhole?_toDigits (n : Nat) {rest : List Char} (ends : EndsNumber rest) :
    readWhole? (Nat.toDigits 10 n ++ rest) = some (n, rest) := by
  by_cases zero : n = 0
  · rw [zero, Nat.toDigits_zero]
    rfl
  · have front := head?_toDigits zero
    rw [readWhole?]
    · rw [readDigits?_append Nat.toDigits_ne_nil (fun c => isDigit_of_mem_toDigits) ends.no_digit,
        Option.map_some]
      dsimp only
      rw [natOfDigits_toDigits]
    · intro more same
      have head := congrArg List.head? same
      rw [List.head?_append_of_ne_nil _ Nat.toDigits_ne_nil] at head
      exact front head

theorem readFraction?_ends {rest : List Char} (ends : EndsNumber rest) :
    readFraction? rest = some (false, rest) := by
  rw [readFraction?]
  rintro more rfl
  contradiction

theorem readExponent?_ends {rest : List Char} (ends : EndsNumber rest) :
    readExponent? rest = some (false, rest) := by
  rw [readExponent?]
  · rintro more rfl
    contradiction
  · rintro more rfl
    contradiction

theorem readNumber?_natural {text rest : List Char} {n : Nat} (unsigned : text.head? ≠ some '-')
    (whole : readWhole? text = some (n, rest)) (ends : EndsNumber rest) :
    readNumber? text = some (some n, rest) := by
  rw [readNumber?]
  · simp [whole, readFraction?_ends ends, readExponent?_ends ends]
  · rintro more rfl
    exact unsigned rfl

theorem readNumber?_negative {text rest : List Char} {n : Nat}
    (whole : readWhole? text = some (n, rest)) (ends : EndsNumber rest) :
    readNumber? ('-' :: text) = some (none, rest) := by
  rw [readNumber?]
  simp [whole, readFraction?_ends ends, readExponent?_ends ends]

theorem toDigits_opens (n : Nat) :
    ∃ d digits, Nat.toDigits 10 n = d :: digits ∧ d.isDigit = true := by
  obtain ⟨d, digits, same⟩ := List.exists_cons_of_ne_nil (Nat.toDigits_ne_nil (n := n) (b := 10))
  refine ⟨d, digits, same, ?_⟩
  exact isDigit_of_mem_toDigits (n := n) (by rw [same]; exact List.mem_cons_self)

theorem readNumber?_numberChars (value : Option Nat) {rest : List Char} (ends : EndsNumber rest) :
    readNumber? (numberChars value ++ rest) = some (value, rest) := by
  cases value with
  | none => exact readNumber?_negative (readWhole?_toDigits 1 ends) ends
  | some n =>
    obtain ⟨d, digits, same, isDigit⟩ := toDigits_opens n
    refine readNumber?_natural ?_ (readWhole?_toDigits n ends) ends
    rw [numberChars, same]
    rintro ⟨⟩
    contradiction

end Numbers

section Blanks

structure Style.IsBlank (style : Style) : Prop where
  before : ∀ level, ∀ c ∈ style.before level, Json.isBlank c = true
  afterColon : ∀ c ∈ style.afterColon.toList, Json.isBlank c = true

theorem isBlank_compact : Style.compact.IsBlank := by
  refine ⟨fun level c member => ?_, fun c member => ?_⟩
  · simp [Style.before, Style.compact] at member
  · simp [Style.compact] at member

theorem isBlank_pretty : Style.pretty.IsBlank := by
  refine ⟨fun level c member => ?_, fun c member => ?_⟩
  · simp only [Style.before, Style.pretty, Text.repeated, String.toList_append,
      String.toList_ofList, List.mem_append, List.mem_replicate] at member
    rcases member with feed | ⟨-, rfl⟩
    · rw [List.mem_singleton.mp feed]
      decide
    · decide
  · have single : Style.pretty.afterColon.toList = [' '] := rfl
    rw [single] at member
    rw [List.mem_singleton.mp member]
    decide

theorem skipBlanks_append {blanks : List Char} (blank : ∀ c ∈ blanks, isBlank c = true) {c : Char}
    (solid : isBlank c = false) (rest : List Char) :
    skipBlanks (blanks ++ c :: rest) = c :: rest := by
  rw [skipBlanks, List.dropWhile_append_of_pos blank]
  exact List.dropWhile_cons_of_neg (by simp [solid])

theorem endsNumber_of_blank {blanks rest : List Char} (blank : ∀ c ∈ blanks, isBlank c = true)
    (ends : EndsNumber rest) : EndsNumber (blanks ++ rest) := by
  cases blanks with
  | nil => exact ends
  | cons c blanks =>
    have here := blank c List.mem_cons_self
    simp only [isBlank, Bool.or_eq_true, beq_iff_eq] at here
    rcases here with ((rfl | rfl) | rfl) | rfl <;> rfl

end Blanks

section Values

theorem not_isBlank_of_isDigit {c : Char} (digit : c.isDigit = true) : isBlank c = false := by
  rw [Bool.eq_false_iff]
  intro blank
  simp only [isBlank, Bool.or_eq_true, beq_iff_eq] at blank
  rcases blank with ((rfl | rfl) | rfl) | rfl <;> contradiction

theorem Value.chars_opens (style : Style) (level : Nat) (value : Value) :
    ∃ c rest, value.chars style level = c :: rest ∧ Json.isBlank c = false ∧ c ≠ ']' := by
  cases value with
  | null => exact ⟨'n', _, by rw [Value.chars], by decide, by decide⟩
  | bool value => cases value <;> exact ⟨_, _, by rw [Value.chars], by decide, by decide⟩
  | number value =>
    cases value with
    | none => exact ⟨'-', _, by rw [Value.chars, numberChars], by decide, by decide⟩
    | some n =>
      obtain ⟨d, digits, same, isDigit⟩ := toDigits_opens n
      refine ⟨d, digits, by rw [Value.chars, numberChars, same], not_isBlank_of_isDigit isDigit, ?_⟩
      rintro rfl
      contradiction
  | text value =>
    obtain ⟨inner, same, -⟩ := readText?_textChars value []
    rw [List.append_nil] at same
    exact ⟨'"', inner, by rw [Value.chars, same], by decide, by decide⟩
  | array items => cases items <;> exact ⟨'[', _, by rw [Value.chars], by decide, by decide⟩
  | object fields =>
    cases fields <;> exact ⟨'\x7b', _, by rw [Value.chars], by decide, by decide⟩

variable {style : Style}

/-- What is written of a value in a style is read as the value. -/
def Reads (style : Style) (value : Value) : Prop :=
  ∀ level fuel rest, 2 * (value.chars style level).length ≤ fuel → EndsNumber rest →
    readValue? fuel (value.chars style level ++ rest) = some (value, rest)

theorem readValue?_number {c : Char} (first : c = '-' ∨ c.isDigit = true) (fuel : Nat)
    (text : List Char) :
    readValue? (fuel + 1) (c :: text) =
      (readNumber? (c :: text)).map fun (n, rest) => (.number n, rest) := by
  -- A digit or a sign starts no other value.
  have unlike (other : Char) (notSign : other ≠ '-') (notDigit : other.isDigit = false) :
      c ≠ other := by
    rintro rfl
    rcases first with rfl | isDigit
    · exact notSign rfl
    · rw [notDigit] at isDigit
      contradiction
  rw [readValue?]
  all_goals
    intro rest same
    exact unlike _ (by decide) (by decide) (List.cons.inj same).1

theorem reads_number (value : Option Nat) : Reads style (.number value) := by
  intro level fuel rest enough ends
  rw [Value.chars] at enough ⊢
  have read := readNumber?_numberChars value ends
  obtain ⟨c, chars, same, first⟩ : ∃ c chars, numberChars value = c :: chars ∧
      (c = '-' ∨ c.isDigit = true) := by
    cases value with
    | none => exact ⟨'-', ['1'], rfl, .inl rfl⟩
    | some n =>
      obtain ⟨d, digits, same, isDigit⟩ := toDigits_opens n
      exact ⟨d, digits, same, .inr isDigit⟩
  rw [same] at enough read ⊢
  obtain ⟨fuel, rfl⟩ : ∃ less, fuel = less + 1 :=
    ⟨fuel - 1, by rw [List.length_cons] at enough; omega⟩
  rw [List.cons_append] at read ⊢
  rw [readValue?_number first, read, Option.map_some]

theorem reads_text (value : Option String) : Reads style (.text value) := by
  intro level fuel rest enough ends
  rw [Value.chars] at enough ⊢
  obtain ⟨inner, same, read⟩ := readText?_textChars value rest
  have filled : 0 < (textChars value).length := by cases value <;> simp [textChars]
  obtain ⟨fuel, rfl⟩ : ∃ less, fuel = less + 1 := ⟨fuel - 1, by omega⟩
  rw [same, readValue?, read, Option.map_some]

section Items

theorem readValue?_array {blanks : List Char} (blank : ∀ c ∈ blanks, isBlank c = true) {c : Char}
    (solid : isBlank c = false) (goesOn : c ≠ ']') (fuel : Nat) (text : List Char) :
    readValue? (fuel + 1) ('[' :: (blanks ++ c :: text)) = readItems? fuel [] (c :: text) := by
  rw [readValue?, skipBlanks_append blank solid]
  split
  · rename_i closed
    exact absurd (List.cons.inj closed).1 goesOn
  · rfl

variable {first : Value} (reads : Reads style first) {level fuel : Nat} {blanks : List Char}
  (blank : ∀ c ∈ blanks, isBlank c = true)
include reads blank

theorem readItems?_last (enough : 2 * (first.chars style level).length ≤ fuel) (done : List Value)
    (rest : List Char) :
    readItems? (fuel + 1) done (first.chars style level ++ (blanks ++ ']' :: rest)) =
      some (.array (first :: done).reverse, rest) := by
  have ends : EndsNumber (blanks ++ ']' :: rest) := endsNumber_of_blank blank rfl
  rw [readItems?, reads level fuel _ enough ends]
  dsimp only [Option.bind_eq_bind, Option.bind_some]
  rw [skipBlanks_append blank (by decide)]
  rfl

theorem readItems?_next (enough : 2 * (first.chars style level).length ≤ fuel) (done : List Value)
    {c : Char} (solid : isBlank c = false) (text : List Char) :
    readItems? (fuel + 1) done (first.chars style level ++ ',' :: (blanks ++ c :: text)) =
      readItems? fuel (first :: done) (c :: text) := by
  have ends : EndsNumber (',' :: (blanks ++ c :: text)) := rfl
  rw [readItems?, reads level fuel _ enough ends]
  dsimp only [Option.bind_eq_bind, Option.bind_some]
  have here : skipBlanks (',' :: (blanks ++ c :: text)) = ',' :: (blanks ++ c :: text) := rfl
  rw [here]
  show readItems? fuel (first :: done) (skipBlanks (blanks ++ c :: text)) = _
  rw [skipBlanks_append blank solid]

end Items

theorem readItems?_chars (isBlank : style.IsBlank) {first : Value} {items : List Value}
    (reads : ∀ item ∈ first :: items, Reads style item) (level fuel : Nat) (done : List Value)
    {closing : List Char} (blank : ∀ c ∈ closing, Json.isBlank c = true) (rest : List Char)
    (enough : 2 * (first.chars style level ++ itemsChars style level items).length + 1 ≤ fuel) :
    readItems? fuel done
        (first.chars style level ++ (itemsChars style level items ++ (closing ++ ']' :: rest))) =
      some (.array (done.reverse ++ first :: items), rest) := by
  induction items generalizing first fuel done with
  | nil =>
    obtain ⟨fuel, rfl⟩ : ∃ less, fuel = less + 1 := ⟨fuel - 1, by omega⟩
    rw [itemsChars, List.append_nil] at enough
    rw [itemsChars, List.nil_append,
      readItems?_last (reads first List.mem_cons_self) blank (by omega)]
    simp
  | cons second items ih =>
    obtain ⟨c, text, same, solid, -⟩ := second.chars_opens style level
    obtain ⟨fuel, rfl⟩ : ∃ less, fuel = less + 1 := ⟨fuel - 1, by omega⟩
    rw [itemsChars] at enough ⊢
    simp only [List.length_append, List.length_cons] at enough
    rw [List.cons_append, List.append_assoc, List.append_assoc, same, List.cons_append,
      readItems?_next (reads first List.mem_cons_self) (isBlank.before level) (by omega) done solid,
      ← List.cons_append, ← same,
      ih (fun item member => reads item (List.mem_cons_of_mem _ member)) fuel (first :: done)
        (by rw [List.length_append]; omega)]
    simp

theorem reads_array (isBlank : style.IsBlank) {items : List Value}
    (reads : ∀ item ∈ items, Reads style item) : Reads style (.array items) := by
  intro level fuel rest enough ends
  cases items with
  | nil =>
    rw [Value.chars] at enough ⊢
    obtain ⟨fuel, rfl⟩ : ∃ less, fuel = less + 1 := ⟨fuel - 1, by simp at enough; omega⟩
    show readValue? (fuel + 1) ('[' :: ']' :: rest) = _
    rw [readValue?]
    rfl
  | cons first items =>
    obtain ⟨c, text, same, solid, goesOn⟩ := first.chars_opens style (level + 1)
    rw [Value.chars] at enough ⊢
    obtain ⟨fuel, rfl⟩ : ∃ less, fuel = less + 1 := ⟨fuel - 1, by simp at enough; omega⟩
    simp only [List.length_append, List.length_cons] at enough
    simp only [List.cons_append, List.append_assoc, List.nil_append]
    rw [same, List.cons_append, readValue?_array (isBlank.before _) solid goesOn,
      ← List.cons_append, ← same,
      readItems?_chars isBlank reads (level + 1) fuel [] (isBlank.before level) rest
        (by rw [List.length_append]; omega)]
    rfl

section Fields

theorem readValue?_object {blanks : List Char} (blank : ∀ c ∈ blanks, isBlank c = true)
    (fuel : Nat) (text : List Char) :
    readValue? (fuel + 1) ('\x7b' :: (blanks ++ '"' :: text)) =
      readFields? fuel [] ('"' :: text) := by
  rw [readValue?, skipBlanks_append blank (by decide)]
  rfl

variable {value : Value} (reads : Reads style value) {level fuel : Nat}
include reads

theorem readFields?_field (isBlank : style.IsBlank) (name : Option String)
    (enough : 2 * (value.chars style level).length ≤ fuel) (done : List (Option String × Value))
    {following : List Char} (ends : EndsNumber following) :
    readFields? (fuel + 1) done
        (textChars name ++ ':' :: (style.afterColon.toList ++ value.chars style level ++
          following)) =
      match skipBlanks following with
      | ',' :: rest => readFields? fuel ((name, value) :: done) (skipBlanks rest)
      | '\x7d' :: rest => some (.object ((name, value) :: done).reverse, rest)
      | _ => none := by
  obtain ⟨inner, same, read⟩ := readText?_textChars name
    (':' :: (style.afterColon.toList ++ value.chars style level ++ following))
  obtain ⟨c, text, opens, solid, -⟩ := value.chars_opens style level
  have skipped : skipBlanks (style.afterColon.toList ++ value.chars style level ++ following) =
      value.chars style level ++ following := by
    rw [opens, List.append_assoc, List.cons_append, skipBlanks_append isBlank.afterColon solid]
  rw [same, readFields?, read]
  show (readValue? fuel (skipBlanks _)).bind _ = _
  rw [skipped, reads level fuel _ enough ends]
  rfl

end Fields

theorem skipBlanks_before_name {blanks : List Char} (blank : ∀ c ∈ blanks, isBlank c = true)
    (name : Option String) (rest : List Char) :
    skipBlanks (blanks ++ (textChars name ++ rest)) = textChars name ++ rest := by
  obtain ⟨inner, same, -⟩ := readText?_textChars name rest
  rw [same, skipBlanks_append blank (by decide)]

theorem readFields?_chars (isBlank : style.IsBlank) {name : Option String} {value : Value}
    {fields : List (Option String × Value)}
    (reads : ∀ field ∈ (name, value) :: fields, Reads style field.2) (level fuel : Nat)
    (done : List (Option String × Value)) {closing : List Char}
    (blank : ∀ c ∈ closing, Json.isBlank c = true) (rest : List Char)
    (enough : 2 * (value.chars style level ++ fieldsChars style level fields).length + 1 ≤ fuel) :
    readFields? fuel done
        (textChars name ++ ':' :: (style.afterColon.toList ++ value.chars style level ++
          (fieldsChars style level fields ++ (closing ++ '\x7d' :: rest)))) =
      some (.object (done.reverse ++ (name, value) :: fields), rest) := by
  have here : Reads style value := reads (name, value) List.mem_cons_self
  rw [List.length_append] at enough
  obtain ⟨fuel, rfl⟩ : ∃ less, fuel = less + 1 := ⟨fuel - 1, by omega⟩
  induction fields generalizing name value fuel done with
  | nil =>
    have ends : EndsNumber (closing ++ '\x7d' :: rest) := endsNumber_of_blank blank rfl
    rw [fieldsChars, List.nil_append, readFields?_field here isBlank name (by omega) done ends,
      skipBlanks_append blank (by decide)]
    simp
  | cons second fields ih =>
    obtain ⟨other, next⟩ := second
    have ends (text : List Char) : EndsNumber (',' :: text) := rfl
    rw [fieldsChars] at enough ⊢
    simp only [List.length_append, List.length_cons] at enough
    obtain ⟨fuel, rfl⟩ : ∃ less, fuel = less + 1 := ⟨fuel - 1, by omega⟩
    rw [List.cons_append, readFields?_field here isBlank name (by omega) done (ends _)]
    show readFields? (fuel + 1) ((name, value) :: done) (skipBlanks _) = _
    simp only [List.append_assoc, List.cons_append]
    rw [skipBlanks_before_name (isBlank.before level)]
    have goesOn := ih (fun field member => reads field (List.mem_cons_of_mem _ member))
      ((name, value) :: done) (reads (other, next) (by simp)) fuel (by omega)
    simp only [List.append_assoc] at goesOn
    rw [goesOn]
    simp

theorem reads_object (isBlank : style.IsBlank) {fields : List (Option String × Value)}
    (reads : ∀ field ∈ fields, Reads style field.2) : Reads style (.object fields) := by
  intro level fuel rest enough ends
  cases fields with
  | nil =>
    rw [Value.chars] at enough ⊢
    obtain ⟨fuel, rfl⟩ : ∃ less, fuel = less + 1 := ⟨fuel - 1, by simp at enough; omega⟩
    show readValue? (fuel + 1) ('\x7b' :: '\x7d' :: rest) = _
    rw [readValue?]
    rfl
  | cons first fields =>
    obtain ⟨name, value⟩ := first
    rw [Value.chars] at enough ⊢
    obtain ⟨fuel, rfl⟩ : ∃ less, fuel = less + 1 := ⟨fuel - 1, by simp at enough; omega⟩
    simp only [List.length_append, List.length_cons] at enough
    simp only [List.cons_append, List.append_assoc, List.nil_append]
    obtain ⟨inner, opens, -⟩ := readText?_textChars name
      (':' :: (style.afterColon.toList ++ (value.chars style (level + 1) ++
        (fieldsChars style (level + 1) fields ++ (style.before level ++ '\x7d' :: rest)))))
    have read := readFields?_chars isBlank reads (level + 1) fuel [] (isBlank.before level) rest
      (by rw [List.length_append]; omega)
    simp only [List.append_assoc] at read
    rw [opens] at read ⊢
    rw [readValue?_object (isBlank.before _), read]
    rfl

theorem reads_word {value : Value} {word : List Char}
    (written : ∀ level, value.chars style level = word) (filled : word ≠ [])
    (read : ∀ fuel rest, readValue? (fuel + 1) (word ++ rest) = some (value, rest)) :
    Reads style value := by
  intro level fuel rest enough ends
  rw [written] at enough ⊢
  have long : 0 < word.length := List.length_pos_iff.mpr filled
  obtain ⟨fuel, rfl⟩ : ∃ less, fuel = less + 1 := ⟨fuel - 1, by omega⟩
  exact read fuel rest

theorem reads_null : Reads style .null :=
  reads_word (fun level => by rw [Value.chars]) (by decide) fun fuel rest => by
    simp only [List.cons_append, List.nil_append, readValue?]

theorem reads_bool (value : Bool) : Reads style (.bool value) := by
  cases value <;>
    exact reads_word (fun level => by rw [Value.chars]) (by decide) fun fuel rest => by
      simp only [List.cons_append, List.nil_append, readValue?]

/-- Every value is read as it was written, in any style that sets parts apart by blanks. -/
theorem reads (isBlank : style.IsBlank) : ∀ value : Value, Reads style value
  | .null => reads_null
  | .bool value => reads_bool value
  | .number value => reads_number value
  | .text value => reads_text value
  | .array items => reads_array isBlank fun item _ => reads isBlank item
  | .object fields => reads_object isBlank fun field _ => reads isBlank field.2
termination_by value => sizeOf value
decreasing_by
  · have smaller := List.sizeOf_lt_of_mem ‹item ∈ items›
    simp only [Value.array.sizeOf_spec]
    omega
  · have smaller := List.sizeOf_lt_of_mem ‹field ∈ fields›
    obtain ⟨name, value⟩ := field
    simp only [Value.object.sizeOf_spec, Prod.mk.sizeOf_spec] at smaller ⊢
    omega

end Values

section Documents

theorem read?_document {style : Style} (isBlank : style.IsBlank) (value : Value) :
    read? (write style 0 "" value) = some value := by
  obtain ⟨c, text, opens, solid, -⟩ := value.chars_opens style 0
  have unblank : skipBlanks (value.chars style 0) = value.chars style 0 := by
    rw [opens]
    exact List.dropWhile_cons_of_neg (by simp [solid])
  have written : (write style 0 "" value).toList = value.chars style 0 := by
    rw [toList_write, String.toList_empty, List.nil_append]
  have whole := reads isBlank value 0 (2 * (value.chars style 0).length + 1) [] (by omega) rfl
  rw [List.append_nil] at whole
  rw [read?]
  dsimp only
  rw [written, unblank, whole]
  rfl

theorem read?_compact (value : Value) : read? value.compact = some value :=
  read?_document isBlank_compact value

theorem read?_pretty (value : Value) : read? value.pretty = some value :=
  read?_document isBlank_pretty value

end Documents

end LexReport.Json
