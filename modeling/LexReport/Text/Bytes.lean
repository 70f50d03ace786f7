/-! Places in a text counted in UTF-8 bytes, where a place inside a character is no place, and
columns measured in characters. -/

set_option autoImplicit false

namespace LexReport.Text

def byteSize (text : List Char) : Nat :=
  text.foldl (fun size c => size + c.utf8Size) 0

def splitBytesOnto (read : List Char) (bytes : Nat) : List Char → Option (List Char × List Char)
  | [] => if bytes = 0 then some (read.reverse, []) else none
  | c :: rest =>
    if bytes = 0 then some (read.reverse, c :: rest)
    else if c.utf8Size ≤ bytes then splitBytesOnto (c :: read) (bytes - c.utf8Size) rest
    else none

/-- The text before and after a byte offset; none beyond the end or inside a character. -/
def splitBytes? (bytes : Nat) (text : List Char) : Option (List Char × List Char) :=
  splitBytesOnto [] bytes text

def isBoundary (text : List Char) (bytes : Nat) : Bool :=
  (splitBytes? bytes text).isSome

def sliceBytes? (first last : Nat) (text : List Char) : Option (List Char) :=
  if first ≤ last then do
    let (upToLast, _) ← splitBytes? last text
    let (_, between) ← splitBytes? first upToLast
    return between
  else none

/-- Step back from a byte offset to a place between two characters. -/
def boundaryAtOrBelow (text : List Char) : Nat → Nat
  | 0 => 0
  | bytes + 1 =>
    if isBoundary text (bytes + 1) then bytes + 1 else boundaryAtOrBelow text bytes

/-- A text cut to at most `limit` bytes, with three dots where something was cut off. -/
def clipped (limit : Nat) (text : String) : String :=
  if text.utf8ByteSize ≤ limit then text
  else
    match splitBytes? (boundaryAtOrBelow text.toList limit) text.toList with
    | some (kept, _) => String.ofList kept ++ "..."
    | none => text

def repeated (count : Nat) (c : Char) : String :=
  String.ofList (List.replicate count c)

/-- A longer text is left as it is. -/
def leftJustified (width : Nat) (text : String) : String :=
  text ++ repeated (width - text.length) ' '

end LexReport.Text
