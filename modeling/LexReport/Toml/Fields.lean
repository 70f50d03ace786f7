import LexReport.Toml.Item

/-! What a document gives for the fields of a record: by name in a table, or in order in an array.
Fields that the record does not have are passed over. -/

set_option autoImplicit false

namespace LexReport.Toml

inductive Fields where
  | named (entries : Entries)
  | listed (items : List Item)
  deriving Repr, Inhabited

def Item.fields? : Item → Option Fields
  | .table _ entries => some (.named entries)
  | .tables elements => some (.listed (elements.map (.table .headed)))
  | .array items => some (.listed items)
  | .dateTime => some (.named [])
  | _ => none

namespace Fields

def get? (fields : Fields) (place : Nat) (name : String) : Option Item :=
  match fields with
  | named entries => entries.lookup name
  | listed items => items[place]?

/-- The value of a field that may be left out; none if there is an item of another kind. -/
def getOr? {α : Type} (read? : Item → Option α) (fields : Fields) (place : Nat) (name : String)
    (default : α) : Option α :=
  match fields.get? place name with
  | none => some default
  | some item => read? item

end Fields

namespace Item

def boolean? : Item → Option Bool
  | .boolean value => some value
  | _ => none

def string? : Item → Option String
  | .string value => some value
  | _ => none

def naturalBelow? (bound : Nat) : Item → Option Nat
  | .integer (.ofNat n) => if n < bound then some n else none
  | _ => none

def isEmpty : Item → Bool
  | .array [] | .table _ [] => true
  | _ => false

/-- A name that stands for itself: a text, or the only key of a table, whose item holds nothing. -/
def symbol? : Item → Option String
  | .string name => some name
  | .table _ [(name, item)] => if item.isEmpty then some name else none
  | _ => none

end Item

end LexReport.Toml
