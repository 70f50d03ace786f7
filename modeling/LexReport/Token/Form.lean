import LexReport.Json.Value
import LexReport.Token.Basic

/-! Tokens as JSON and back. Reading takes an object with each field once, in any order and among
others, or an array of exactly the fields in order. -/

set_option autoImplicit false

namespace LexReport

open Json (Value)

namespace Json

def fieldNames? (fields : List (Option String × Value)) : Option (List (String × Value)) :=
  fields.mapM fun (name, value) => name.map (·, value)

/-- The value of a field that is given once. -/
def onlyField? (fields : List (String × Value)) (name : String) : Option Value :=
  match fields.filter fun field => field.1 == name with
  | [(_, value)] => some value
  | _ => none

def fields? (names : List String) : Value → Option (List Value)
  | .object fields => do
    let fields ← fieldNames? fields
    names.mapM (onlyField? fields)
  | .array items => if items.length = names.length then some items else none
  | _ => none

def natBelow? (bound : Nat) : Value → Option Nat
  | .number (some n) => if n < bound then some n else none
  | _ => none

def string? : Value → Option String
  | .text s => s
  | _ => none

end Json

def Category.form (category : Category) : Value := .ofString category.name

/-- A category is given by its name, or as an object whose only field has that name and null. -/
def Category.ofForm? : Value → Option Category
  | .text (some name) => Category.ofName? name
  | .object [(some name, .null)] => Category.ofName? name
  | _ => none

namespace Source

def Position.form (place : Position) : Value :=
  .ofFields [("offset", .ofNat place.offset), ("line", .ofNat place.line.toNat),
    ("column", .ofNat place.column.toNat)]

def Position.ofForm? (value : Value) : Option Position := do
  match ← Json.fields? ["offset", "line", "column"] value with
  | [offset, line, column] =>
    let offset ← Json.natBelow? UInt64.size offset
    let line ← Json.natBelow? UInt32.size line
    let column ← Json.natBelow? UInt32.size column
    return ⟨offset, .ofNat line, .ofNat column⟩
  | _ => none

def Span.form (span : Span) : Value :=
  .ofFields [("start", span.first.form), ("end", span.last.form)]

def Span.ofForm? (value : Value) : Option Span := do
  match ← Json.fields? ["start", "end"] value with
  | [first, last] =>
    let first ← Position.ofForm? first
    let last ← Position.ofForm? last
    return ⟨first, last⟩
  | _ => none

end Source

namespace Token

def form (token : Token) : Value :=
  .ofFields [("category", token.category.form), ("lexeme", .ofString token.lexeme),
    ("span", token.span.form)]

def ofForm? (value : Value) : Option Token := do
  match ← Json.fields? ["category", "lexeme", "span"] value with
  | [category, lexeme, span] =>
    let category ← Category.ofForm? category
    let lexeme ← Json.string? lexeme
    let span ← Source.Span.ofForm? span
    return ⟨category, lexeme, span⟩
  | _ => none

def listForm (tokens : List Token) : Value := .array (tokens.map form)

def listOfForm? : Value → Option (List Token)
  | .array items => items.mapM ofForm?
  | _ => none

end Token

end LexReport
