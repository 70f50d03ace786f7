import LexReport.Symbol.Error
import LexReport.Token.Category
import Std.Data.HashMap

/-! Plain identifiers, each with the line where it was first seen, in the order of their first
appearance. The first record of a name stays. -/

set_option autoImplicit false

namespace LexReport.Symbol

def globalScope : String := "global"

structure IdentifierRecord where
  name : String
  category : Category
  line : UInt32
  scope : String
  deriving DecidableEq, Repr, Inhabited

def IdentifierRecord.seen (name : String) (line : UInt32) : IdentifierRecord :=
  ⟨name, .identifier, line, globalScope⟩

/-- Records in order, and for each name the place of its record. -/
structure Identifiers where
  records : Array IdentifierRecord
  index : Std.HashMap String Nat

namespace Identifiers

def empty : Identifiers := ⟨#[], ∅⟩

instance : Inhabited Identifiers := ⟨empty⟩

/-- Whether a name was new, or why it was not taken; and the identifiers after it was offered. -/
def insert (limits : SymbolLimits) (identifiers : Identifiers) (name : String) (line : UInt32) :
    Except Error Bool × Identifiers :=
  match identifiers with
  | ⟨records, index⟩ =>
    if index.contains name then (.ok false, ⟨records, index⟩)
    else if limits.maxPlainIdentifiers ≤ records.size then
      (.error (.identifiersFull name), ⟨records, index⟩)
    else
      let place := records.size
      (.ok true, ⟨records.push (.seen name line), index.insert name place⟩)

def lookup? (identifiers : Identifiers) (name : String) : Option IdentifierRecord := do
  let place ← identifiers.index[name]?
  identifiers.records[place]?

def contains (identifiers : Identifiers) (name : String) : Bool :=
  identifiers.index.contains name

def size (identifiers : Identifiers) : Nat := identifiers.records.size

def names (identifiers : Identifiers) : List String :=
  identifiers.records.toList.map (·.name)

end Identifiers

end LexReport.Symbol
