import LexReport.Source.Span
import LexReport.Text.Bytes

/-! A source text with the starts of its lines, for finding places in it and for showing them. -/

set_option autoImplicit false

namespace LexReport.Source

/-- Where a line starts, in bytes, and the text from there on. -/
structure LineStart where
  offset : Nat
  rest : List Char
  deriving DecidableEq, Repr

/-- The text from the start of a line up to a byte offset; none if the offset lies before the start,
beyond the end or inside a character. -/
def LineStart.upTo? (start : LineStart) (offset : Nat) : Option (List Char) :=
  if start.offset ≤ offset then
    (Text.splitBytes? (offset - start.offset) start.rest).map Prod.fst
  else none

/-- The outcome of looking for a line that starts at an offset: its index, or else how many lines
start before the offset. -/
inductive Sought where
  | found (index : Nat)
  | missing (earlier : Nat)
  deriving DecidableEq, Repr

/-- Look for an offset among ascending starts, from the index `low` on and below `high`, halving
what is left. -/
def seek (starts : Array LineStart) (offset low high : Nat) (inside : high ≤ starts.size) :
    Sought :=
  if left : low < high then
    let middle := low + (high - low) / 2
    have : middle < starts.size := by omega
    if starts[middle].offset = offset then .found middle
    else if starts[middle].offset < offset then seek starts offset (middle + 1) high inside
    else seek starts offset low middle (by omega)
  else .missing low
termination_by high - low

def startsOnto (starts : Array LineStart) (offset : Nat) : List Char → Array LineStart
  | [] => starts
  | c :: rest =>
    let next := offset + c.utf8Size
    startsOnto (if c = '\n' then starts.push ⟨next, rest⟩ else starts) next rest

def lineStarts (source : List Char) : Array LineStart :=
  startsOnto #[⟨0, source⟩] 0 source

structure Lines where
  source : List Char
  starts : Array LineStart
  indexed : starts = lineStarts source

namespace Lines

def ofText (source : List Char) : Lines := ⟨source, lineStarts source, rfl⟩

instance : Inhabited Lines := ⟨ofText []⟩

def count (text : Lines) : Nat := text.starts.size

def lineEnd (text : Lines) (index : Nat) : Nat :=
  match text.starts[index + 1]? with
  | some next => next.offset - 1
  | none => Text.byteSize text.source

/-- A line without its line feed. Lines are numbered from one. -/
def line? (text : Lines) : Nat → Option String
  | 0 => none
  | index + 1 => do
    let start ← text.starts[index]?
    let line ← start.upTo? (text.lineEnd index)
    return String.ofList line

/-- The line of a byte offset, counted from zero: the last one that does not start behind it. -/
def lineAt? (text : Lines) (offset : Nat) : Option Nat :=
  match seek text.starts offset 0 text.starts.size (Nat.le_refl _) with
  | .found line => some line
  | .missing 0 => none
  | .missing (earlier + 1) => some earlier

def position? (text : Lines) (offset : Nat) : Option Position := do
  let line ← text.lineAt? offset
  let start ← text.starts[line]?
  let before ← start.upTo? offset
  return ⟨offset, .ofNat (line + 1), .ofNat (before.length + 1)⟩

def span? (text : Lines) (first last : Nat) : Option Span := do
  let first ← text.position? first
  let last ← text.position? last
  Span.between? first last

def slice? (text : Lines) (span : Span) : Option (List Char) :=
  span.slice? text.source

/-- How many characters to underline: up to the end of the span, or of the line if the span
leaves it. None if the span ends before it starts or starts beyond the line. -/
def underlined? (span : Span) (line : String) : Option Nat :=
  let column := span.first.column.toNat
  if span.first.line = span.last.line then
    if column ≤ span.last.column.toNat then some (span.last.column.toNat - column) else none
  else if column ≤ line.length + 1 then some (line.length + 1 - column) else none

def snippet? (text : Lines) (span : Span) (message : String) : Option String :=
  let header := message ++ "\n  --> " ++ span.first.text ++ "\n"
  match text.line? span.first.line.toNat with
  | none => some header
  | some line => do
    let number := toString span.first.line.toNat
    let margin := Text.repeated number.length ' '
    let carets ← underlined? span line
    let column ← if span.first.column = 0 then none else some (span.first.column.toNat - 1)
    return header ++ margin ++ " |\n" ++ number ++ " | " ++ line ++ "\n" ++ margin ++ " | " ++
      Text.repeated column ' ' ++ Text.repeated (max carets 1) '^' ++ "\n"

end Lines

end LexReport.Source
