import LexReport.Scan.Rule
import LexReport.Text.Bytes

/-! A text cut into pieces: the lexemes that the rules find, and the gaps between them. At each
place the first rule that matches takes its lexeme; a character at which no rule matches belongs
to a gap. -/

set_option autoImplicit false

namespace LexReport.Scan

inductive Piece where
  | lexeme (category : Category) (text : List Char)
  | gap (text : List Char)
  deriving DecidableEq, Repr

def Piece.text : Piece → List Char
  | lexeme _ text => text
  | gap text => text

/-- Close the gap of the skipped characters, which are reversed, as are the pieces. -/
def closeGap (done : List Piece) (skipped : List Char) : List Piece :=
  if skipped.isEmpty then done else .gap skipped.reverse :: done

/-- Cut `rest`, on top of the pieces and the skipped characters before it. -/
def cutOnto (rules : List Category) (done : List Piece) (skipped : List Char)
    (before : Option Char) (rest : List Char) : List Piece :=
  match rest with
  | [] => (closeGap done skipped).reverse
  | c :: more =>
    match _found : firstMatch? rules before (c :: more) with
    | some (category, length) =>
      let text := (c :: more).take length
      cutOnto rules (.lexeme category text :: closeGap done skipped) [] text.getLast?
        ((c :: more).drop length)
    | none => cutOnto rules done (c :: skipped) (some c) more
termination_by rest.length
decreasing_by
  · have := firstMatch?_pos _found
    simp only [List.length_drop, List.length_cons]
    omega
  · simp

def pieces (rules : List Category) (text : List Char) : List Piece :=
  cutOnto rules [] [] none text

structure Found where
  category : Category
  text : List Char
  first : Nat
  last : Nat
  deriving DecidableEq, Repr

def firstFound? (offset : Nat) : List Piece → Option Found
  | [] => none
  | .gap text :: rest => firstFound? (offset + Text.byteSize text) rest
  | .lexeme category text :: _ => some ⟨category, text, offset, offset + Text.byteSize text⟩

end LexReport.Scan
