import LexReport.Token.Category

/-! How the report classifies symbols. -/

set_option autoImplicit false

namespace LexReport.Symbol

inductive Class where
  | datatype
  | identifier
  | assignment
  | constant
  | separator
  | keyword
  | roundBracket
  | curlyBracket
  | increment
  | decrement
  | relational
  | stringLiteral
  deriving DecidableEq, Repr, Inhabited, Hashable

namespace Class

def all : List Class :=
  [datatype, identifier, assignment, constant, separator, keyword, roundBracket, curlyBracket,
    increment, decrement, relational, stringLiteral]

def label : Class → String
  | datatype => "Datatype"
  | identifier => "ID"
  | assignment => "Assign_OP"
  | constant => "Constant"
  | separator => "Separator"
  | keyword => "Keyword"
  | roundBracket => "Round Bracket"
  | curlyBracket => "Curly Bracket"
  | increment => "Increment Operator"
  | decrement => "Decrement Operator"
  | relational => "Relational Operator"
  | stringLiteral => "String Literal"

def ofLabel? (label : String) : Option Class :=
  all.find? fun c => c.label == label

/-- A category without a class is listed among the tokens and is no symbol. -/
def ofCategory? : Category → Option Class
  | .datatype => some datatype
  | .identifier => some identifier
  | .assignment => some assignment
  | .constant => some constant
  | .separator => some separator
  | .keyword => some keyword
  | .roundBracket => some roundBracket
  | .curlyBracket => some curlyBracket
  | .increment => some increment
  | .decrement => some decrement
  | .relational => some relational
  | .stringLiteral => some stringLiteral
  | .preprocessor | .charLiteral | .arithmetic | .comment | .atSign | .whitespace | .newline => none

end Class

end LexReport.Symbol
