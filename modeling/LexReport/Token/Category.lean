/-! What kind of lexeme a stretch of source is. -/

set_option autoImplicit false

namespace LexReport

/-- In the order in which the rules are tried. -/
inductive Category where
  | comment
  | preprocessor
  | atSign
  | datatype
  | keyword
  | identifier
  | constant
  | stringLiteral
  | charLiteral
  | increment
  | decrement
  | assignment
  | arithmetic
  | relational
  | roundBracket
  | curlyBracket
  | separator
  | whitespace
  | newline
  deriving DecidableEq, Repr, Inhabited, Hashable

inductive CategoryKind where
  | word
  | literal
  | operator
  | punctuation
  | directive
  | trivia
  deriving DecidableEq, Repr

namespace Category

def all : List Category :=
  [comment, preprocessor, atSign, datatype, keyword, identifier, constant, stringLiteral,
    charLiteral, increment, decrement, assignment, arithmetic, relational, roundBracket,
    curlyBracket, separator, whitespace, newline]

theorem mem_all (category : Category) : category ∈ all := by
  cases category <;> decide

def name : Category → String
  | comment => "COMMENT"
  | preprocessor => "PREPROCESSOR"
  | atSign => "AT_SYMBOL"
  | datatype => "DATATYPE"
  | keyword => "KEYWORD"
  | identifier => "ID"
  | constant => "CONSTANT"
  | stringLiteral => "STRING_LITERAL"
  | charLiteral => "CHAR_LITERAL"
  | increment => "INCREMENT_OP"
  | decrement => "DECREMENT_OP"
  | assignment => "ASSIGN_OP"
  | arithmetic => "ARITHMETIC_OP"
  | relational => "RELATIONAL_OP"
  | roundBracket => "ROUND_BRACKET"
  | curlyBracket => "CURLY_BRACKET"
  | separator => "SEPARATOR"
  | whitespace => "WHITESPACE"
  | newline => "NEWLINE"

def ofName? (name : String) : Option Category :=
  all.find? fun category => category.name == name

theorem ofName?_name (category : Category) : ofName? category.name = some category := by
  cases category <;> decide

def kind : Category → CategoryKind
  | datatype | keyword | identifier => .word
  | constant | stringLiteral | charLiteral => .literal
  | increment | decrement | assignment | arithmetic | relational => .operator
  | roundBracket | curlyBracket | separator => .punctuation
  | preprocessor => .directive
  | comment | atSign | whitespace | newline => .trivia

def isSuppressed (category : Category) : Bool :=
  category.kind == .trivia

def isOperator (category : Category) : Bool :=
  category.kind == .operator

def rank (category : Category) : Nat :=
  all.idxOf category

end Category

namespace CategoryKind

def name : CategoryKind → String
  | word => "Word"
  | literal => "Literal"
  | operator => "Operator"
  | punctuation => "Punctuation"
  | directive => "Directive"
  | trivia => "Trivia"

end CategoryKind

end LexReport
