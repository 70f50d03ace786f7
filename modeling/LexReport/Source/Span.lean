import LexReport.Source.Position
import LexReport.Text.Bytes

/-! Stretches of a source text, from a first place up to, and without, a last one. -/

set_option autoImplicit false

namespace LexReport.Source

structure Span where
  first : Position
  last : Position
  deriving DecidableEq, Repr, Inhabited

namespace Span

def between? (first last : Position) : Option Span :=
  if first.offset ≤ last.offset then some ⟨first, last⟩ else none

def nowhere : Span := ⟨.start, .start⟩

/-- The length in bytes; none if the ends are out of order. -/
def length? (span : Span) : Option Nat :=
  if span.first.offset ≤ span.last.offset then some (span.last.offset - span.first.offset) else none

def isEmpty (span : Span) : Bool :=
  span.first.offset == span.last.offset

def contains (span : Span) (place : Position) : Bool :=
  decide (span.first.offset ≤ place.offset ∧ place.offset < span.last.offset)

def slice? (span : Span) (source : List Char) : Option (List Char) :=
  Text.sliceBytes? span.first.offset span.last.offset source

/-- The line is named once if the span ends on the line where it starts. -/
def text (span : Span) : String :=
  if span.first.line = span.last.line then
    span.first.text ++ "-" ++ toString span.last.column.toNat
  else span.first.text ++ "-" ++ span.last.text

end Span

end LexReport.Source
