/-! JSON documents. -/

set_option autoImplicit false

namespace LexReport.Json

/-- A value keeps of a number only whether it is a natural one and which, and of a text only
whether it is well formed and which: an escape may stand for half of a surrogate pair. Fields keep
their order, and a name may be given more than once. -/
inductive Value where
  | null
  | bool (value : Bool)
  | number (value : Option Nat)
  | text (value : Option String)
  | array (items : List Value)
  | object (fields : List (Option String × Value))
  deriving Repr, Inhabited

namespace Value

def ofNat (n : Nat) : Value := number (some n)

def ofString (s : String) : Value := text (some s)

def ofFields (fields : List (String × Value)) : Value :=
  object (fields.map fun (name, value) => (some name, value))

end Value

end LexReport.Json
