import LexReport.Token.Category
import LexReport.Source.Span

/-! Tokens: lexemes with their category and place. -/

set_option autoImplicit false

namespace LexReport

structure Token where
  category : Category
  lexeme : String
  span : Source.Span
  deriving DecidableEq, Repr, Inhabited

namespace Token

def text (token : Token) : String :=
  token.category.name ++ " '" ++ token.lexeme ++ "' at " ++ token.span.first.text

def pair (token : Token) : Category × String := (token.category, token.lexeme)

end Token

/-- How many tokens there are of each category that occurs, in category order. -/
def countByCategory (tokens : List Token) : List (Category × Nat) :=
  Category.all.filterMap fun category =>
    let count := tokens.countP fun token => token.category == category
    if count = 0 then none else some (category, count)

end LexReport
