import LexReport.Scan.Pattern
import LexReport.Text.WordChar
import LexReport.Token.Category

/-! The rules, one for each category. A rule has a written form, and a function that measures the
lexeme at a place: it gets the character before the place and the text from there on, and gives
the number of characters that belong to the lexeme, or nothing if the rule does not match. -/

set_option autoImplicit false

namespace LexReport.Scan

open Text

def datatypeNames : List String := ["int", "float", "char", "double", "void"]

def reservedWords : List String :=
  ["if", "else", "while", "for", "do", "switch", "case", "default", "break", "continue",
    "return", "printf", "scanf", "main", "include", "define"]

def classifyWord (word : String) : Category :=
  if datatypeNames.contains word then .datatype
  else if reservedWords.contains word then .keyword
  else .identifier

section Written

open Pattern

def anyWord : List String → Pattern
  | [] => group empty
  | first :: rest => group (ofChoices (ofWord first) (rest.map ofWord))

def oneOf (characters : String) : Pattern :=
  char (.among (characters.toList.map .one))

def allBut (c : Char) : Pattern := char (.notAmong [.one c])

def identifierStarts : CharSet := .among [.range 'a' 'z', .range 'A' 'Z', .one '_']

def identifierChars : CharSet :=
  .among [.range 'a' 'z', .range 'A' 'Z', .range '0' '9', .one '_']

def fraction : Pattern :=
  repeated (group (ofSequence [only '.', repeated (char .decimalDigit) .some])) .optional

def pattern : Category → Pattern
  | .comment =>
    ofChoices (ofSequence [ofWord "//", repeated (char .anyButNewline) .any])
      [ofSequence [ofWord "/*", repeated (char .anyButNewline) .anyLazy, ofWord "*/"]]
  | .preprocessor =>
    ofSequence [only '#', repeated (char .blank) .any, ofWord "include",
      repeated (char .blank) .any, only '<', repeated (allBut '>') .some, only '>']
  | .atSign => only '@'
  | .datatype => ofSequence [wordBoundary, anyWord datatypeNames, wordBoundary]
  | .keyword => ofSequence [wordBoundary, anyWord reservedWords, wordBoundary]
  | .identifier =>
    ofSequence [wordBoundary, char identifierStarts, repeated (char identifierChars) .any,
      wordBoundary]
  | .constant =>
    ofSequence [wordBoundary, repeated (char .decimalDigit) .some, fraction, wordBoundary]
  | .stringLiteral => ofSequence [only '"', repeated (allBut '"') .any, only '"']
  | .charLiteral => ofSequence [only '\'', repeated (allBut '\'') .any, only '\'']
  | .increment => ofWord "++"
  | .decrement => ofWord "--"
  | .assignment => only '='
  | .arithmetic => oneOf "+-*/"
  | .relational => anyWord [">=", "<=", "==", "!=", ">", "<"]
  | .roundBracket => oneOf "()"
  | .curlyBracket => oneOf "{}"
  | .separator => oneOf ";,:"
  | .whitespace => repeated (oneOf " \t") .some
  | .newline => only '\n'

def namedPattern (category : Category) : Pattern :=
  named category.name (pattern category)

def combinedPattern : List Category → Pattern
  | [] => empty
  | first :: rest => ofChoices (namedPattern first) (rest.map namedPattern)

def combinedText : String := (combinedPattern Category.all).text

def combinedGroupTotal : Nat := (combinedPattern Category.all).groupTotal + 1

end Written

section Measured

def isIdentifierStart (c : Char) : Bool := c.isAlpha || c == '_'

def isIdentifierChar (c : Char) : Bool := c.isAlphanum || c == '_'

/-- A word may begin after a character that is no word character. -/
def opensWord (before : Option Char) : Bool := !before.any isWordChar

def closesWord (rest : List Char) : Bool := !rest.head?.any isWordChar

def wordExtent? (isWanted : List Char → Bool) (before : Option Char) (rest : List Char) :
    Option Nat :=
  if opensWord before then
    let run := rest.takeWhile isWordChar
    if !run.isEmpty && isWanted run then some run.length else none
  else none

def isIdentifierWord : List Char → Bool
  | [] => false
  | c :: rest => isIdentifierStart c && rest.all isIdentifierChar

/-- The characters before the first `*/` of a text, if no line feed comes earlier. -/
def closingOffset? (offset : Nat) : List Char → Option Nat
  | [] => none
  | '*' :: '/' :: _ => some offset
  | c :: rest => if c = '\n' then none else closingOffset? (offset + 1) rest

def commentExtent? : List Char → Option Nat
  | '/' :: '/' :: rest => some (2 + (rest.takeWhile (· != '\n')).length)
  | '/' :: '*' :: rest => (closingOffset? 0 rest).map (· + 4)
  | _ => none

def afterWord? : List Char → List Char → Option (List Char)
  | [], rest => some rest
  | c :: word, d :: rest => if c = d then afterWord? word rest else none
  | _ :: _, [] => none

/-- The characters up to and with the next `close`; at least `least` others come before it. -/
def closedExtent? (close : Char) (least : Nat) (rest : List Char) : Option Nat :=
  let inner := rest.takeWhile (· != close)
  if inner.length < least || (rest.drop inner.length).isEmpty then none
  else some (inner.length + 1)

def preprocessorExtent? : List Char → Option Nat
  | '#' :: rest => do
    let blanks := rest.takeWhile isBlank
    let afterName ← afterWord? "include".toList (rest.drop blanks.length)
    let moreBlanks := afterName.takeWhile isBlank
    match afterName.drop moreBlanks.length with
    | '<' :: header =>
      let closed ← closedExtent? '>' 1 header
      return 1 + blanks.length + 7 + moreBlanks.length + 1 + closed
    | _ => none
  | _ => none

def quotedExtent? (quote : Char) : List Char → Option Nat
  | c :: rest => if c = quote then (closedExtent? quote 0 rest).map (· + 1) else none
  | [] => none

def fractionDigits : List Char → Nat
  | '.' :: rest => (rest.takeWhile isDecimalDigit).length
  | _ => 0

/-- Digits, then a point and digits if a word may end after them, else the digits alone if a word
may end there. -/
def constantExtent? (before : Option Char) (rest : List Char) : Option Nat :=
  let whole := (rest.takeWhile isDecimalDigit).length
  let afterWhole := rest.drop whole
  let fraction := fractionDigits afterWhole
  if !opensWord before || whole == 0 then none
  else if fraction != 0 && closesWord (afterWhole.drop (1 + fraction)) then
    some (whole + 1 + fraction)
  else if closesWord afterWhole then some whole
  else none

def relationalExtent? : List Char → Option Nat
  | '>' :: '=' :: _ | '<' :: '=' :: _ | '=' :: '=' :: _ | '!' :: '=' :: _ => some 2
  | '>' :: _ | '<' :: _ => some 1
  | _ => none

def charExtent? (isMember : Char → Bool) : List Char → Option Nat
  | c :: _ => if isMember c then some 1 else none
  | [] => none

def doubledExtent? (wanted : Char) : List Char → Option Nat
  | c :: d :: _ => if c = wanted && d = wanted then some 2 else none
  | _ => none

def runExtent? (isMember : Char → Bool) (rest : List Char) : Option Nat :=
  let run := rest.takeWhile isMember
  if run.isEmpty then none else some run.length

def extent? (category : Category) (before : Option Char) (rest : List Char) : Option Nat :=
  match category with
  | .comment => commentExtent? rest
  | .preprocessor => preprocessorExtent? rest
  | .atSign => charExtent? (· == '@') rest
  | .datatype => wordExtent? (fun word => datatypeNames.contains (String.ofList word)) before rest
  | .keyword => wordExtent? (fun word => reservedWords.contains (String.ofList word)) before rest
  | .identifier => wordExtent? isIdentifierWord before rest
  | .constant => constantExtent? before rest
  | .stringLiteral => quotedExtent? '"' rest
  | .charLiteral => quotedExtent? '\'' rest
  | .increment => doubledExtent? '+' rest
  | .decrement => doubledExtent? '-' rest
  | .assignment => charExtent? (· == '=') rest
  | .arithmetic => charExtent? (fun c => c == '+' || c == '-' || c == '*' || c == '/') rest
  | .relational => relationalExtent? rest
  | .roundBracket => charExtent? (fun c => c == '(' || c == ')') rest
  | .curlyBracket => charExtent? (fun c => c == '\x7b' || c == '\x7d') rest
  | .separator => charExtent? (fun c => c == ';' || c == ',' || c == ':') rest
  | .whitespace => runExtent? (fun c => c == ' ' || c == '\t') rest
  | .newline => charExtent? (· == '\n') rest

theorem wordExtent?_pos {isWanted : List Char → Bool} {before : Option Char} {rest : List Char}
    {length : Nat} (found : wordExtent? isWanted before rest = some length) : 0 < length := by
  simp only [wordExtent?] at found
  split at found <;> try contradiction
  split at found <;> try contradiction
  rename_i wanted
  simp only [Bool.and_eq_true, Bool.not_eq_true', List.isEmpty_eq_false_iff] at wanted
  cases found
  exact List.length_pos_iff.2 wanted.1

theorem runExtent?_pos {isMember : Char → Bool} {rest : List Char} {length : Nat}
    (found : runExtent? isMember rest = some length) : 0 < length := by
  simp only [runExtent?] at found
  split at found <;> try contradiction
  rename_i filled
  cases found
  exact List.length_pos_iff.2 (by simpa using filled)

theorem charExtent?_pos {isMember : Char → Bool} {rest : List Char} {length : Nat}
    (found : charExtent? isMember rest = some length) : 0 < length := by
  cases rest with
  | nil => simp [charExtent?] at found
  | cons c rest =>
    simp only [charExtent?] at found
    split at found
    · cases found
      decide
    · contradiction

theorem constantExtent?_pos {before : Option Char} {rest : List Char} {length : Nat}
    (found : constantExtent? before rest = some length) : 0 < length := by
  simp only [constantExtent?] at found
  split at found <;> try contradiction
  rename_i filled
  simp only [Bool.or_eq_true, Bool.not_eq_true', beq_iff_eq, not_or] at filled
  split at found
  · cases found; omega
  · split at found <;> try contradiction
    cases found
    exact Nat.pos_of_ne_zero filled.2

theorem extent?_pos {category : Category} {before : Option Char} {rest : List Char} {length : Nat}
    (found : extent? category before rest = some length) : 0 < length := by
  cases category <;> simp only [extent?] at found
  case comment =>
    simp only [commentExtent?] at found
    split at found
    · cases found; omega
    · simp only [Option.map_eq_some_iff] at found
      obtain ⟨_, _, rfl⟩ := found
      omega
    · contradiction
  case preprocessor =>
    simp only [preprocessorExtent?] at found
    split at found <;> try contradiction
    simp only [Option.bind_eq_bind, Option.bind_eq_some_iff] at found
    obtain ⟨_, _, found⟩ := found
    split at found <;> try contradiction
    simp only [Option.bind_eq_some_iff, Option.pure_def, Option.some.injEq] at found
    obtain ⟨_, _, rfl⟩ := found
    omega
  case datatype | keyword | identifier => exact wordExtent?_pos found
  case constant => exact constantExtent?_pos found
  case stringLiteral | charLiteral =>
    simp only [quotedExtent?] at found
    split at found <;> try contradiction
    split at found <;> try contradiction
    simp only [Option.map_eq_some_iff] at found
    obtain ⟨_, _, rfl⟩ := found
    omega
  case increment | decrement =>
    simp only [doubledExtent?] at found
    split at found <;> try contradiction
    split at found <;> try contradiction
    cases found
    decide
  case relational =>
    simp only [relationalExtent?] at found
    split at found <;> try contradiction
    all_goals
      cases found
      decide
  case whitespace => exact runExtent?_pos found
  case atSign | assignment | arithmetic | roundBracket | curlyBracket | separator | newline =>
    exact charExtent?_pos found

end Measured

/-- The first of some rules that matches at a place, with the length of its lexeme. -/
def firstMatch? (rules : List Category) (before : Option Char) (rest : List Char) :
    Option (Category × Nat) :=
  rules.findSome? fun category => (extent? category before rest).map (category, ·)

theorem firstMatch?_pos {rules : List Category} {before : Option Char} {rest : List Char}
    {category : Category} {length : Nat}
    (found : firstMatch? rules before rest = some (category, length)) : 0 < length := by
  obtain ⟨rule, _, found⟩ := List.exists_of_findSome?_eq_some found
  simp only [Option.map_eq_some_iff, Prod.mk.injEq] at found
  obtain ⟨_, measured, _, rfl⟩ := found
  exact extent?_pos measured

end LexReport.Scan
