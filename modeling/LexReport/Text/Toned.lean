import LexReport.Text.Visible

/-! Texts whose pieces have tones, as a terminal shows them with colours and without. -/

set_option autoImplicit false

namespace LexReport.Text

inductive Piece where
  | plain (text : String)
  | heading (text : String)
  /-- What is typed as it stands. -/
  | literal (text : String)
  | failure (text : String)
  | valid (text : String)
  | invalid (text : String)
  deriving DecidableEq, Repr

/-- The control function that sets a look by its number; nought puts an end to all looks. -/
def lookCode (look : Nat) : String := "\x1b[" ++ toString look ++ "m"

def withLooks (looks : List Nat) (text : String) : String :=
  String.join (looks.map lookCode) ++ text ++ lookCode 0

def Piece.coloured : Piece → String
  | plain text => text
  | heading text => withLooks [1, 4] text
  | literal text => withLooks [1] text
  | failure text => withLooks [1, 31] text
  | valid text => withLooks [32] text
  | invalid text => withLooks [33] text

abbrev Toned := List Piece

namespace Toned

def coloured (toned : Toned) : String := String.join (toned.map Piece.coloured)

/-- Without colours no control function is left, be it that of a tone or one within a piece. -/
def shown (toned : Toned) (hasColours : Bool) : String :=
  if hasColours then coloured toned else visible (coloured toned)

end Toned

end LexReport.Text
