/-! Places in a source text. The offset counts UTF-8 bytes from zero; line and column count from
one, the column in characters. Lines and columns are 32-bit words and wrap. -/

set_option autoImplicit false

namespace LexReport.Source

structure Position where
  offset : Nat
  line : UInt32
  column : UInt32
  deriving DecidableEq, Repr, Inhabited

namespace Position

def start : Position := ⟨0, 1, 1⟩

def next (place : Position) (c : Char) : Position :=
  if c = '\n' then ⟨place.offset + c.utf8Size, place.line + 1, 1⟩
  else ⟨place.offset + c.utf8Size, place.line, place.column + 1⟩

def after (place : Position) (text : List Char) : Position :=
  text.foldl next place

@[simp] theorem after_nil (place : Position) : place.after [] = place := rfl

@[simp] theorem after_cons (place : Position) (c : Char) (text : List Char) :
    place.after (c :: text) = (place.next c).after text := rfl

theorem after_append (place : Position) (first rest : List Char) :
    place.after (first ++ rest) = (place.after first).after rest := by
  simp [after, List.foldl_append]

def text (place : Position) : String :=
  toString place.line.toNat ++ ":" ++ toString place.column.toNat

end Position

end LexReport.Source
