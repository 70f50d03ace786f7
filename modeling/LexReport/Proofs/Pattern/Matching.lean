import LexReport.Scan.Rule
import LexReport.Text.Bytes

/-! What a pattern means. A pattern is matched with backtracking: of the ways to match, the one
that is preferred among those after which the rest can go on. -/

set_option autoImplicit false

namespace LexReport.Scan

open Text

def SetMember.holds (c : Char) : SetMember → Bool
  | one d => c == d
  | range first last => decide (first ≤ c ∧ c ≤ last)

def CharSet.holds (c : Char) : CharSet → Bool
  | only d => c == d
  | anyButNewline => c != '\n'
  | decimalDigit => isDecimalDigit c
  | blank => isBlank c
  | among members => members.any (·.holds c)
  | notAmong members => !members.any (·.holds c)

structure Capture where
  name : String
  first : Nat
  last : Nat
  deriving DecidableEq, Repr

/-- A place in a text that is being matched: the characters before it, nearest first, the
characters from there on, and what the named groups have matched so far, newest first. -/
structure Cursor where
  seen : List Char
  rest : List Char
  captures : List Capture := []
  deriving DecidableEq, Repr

namespace Cursor

def before (cursor : Cursor) : Option Char := cursor.seen.head?

def offset (cursor : Cursor) : Nat := byteSize cursor.seen

def forward (cursor : Cursor) (count : Nat) : Cursor :=
  ⟨(cursor.rest.take count).reverse ++ cursor.seen, cursor.rest.drop count, cursor.captures⟩

def capture (cursor : Cursor) (name : String) (first : Nat) : Cursor :=
  { cursor with captures := ⟨name, first, cursor.offset⟩ :: cursor.captures }

def isWordBoundary (cursor : Cursor) : Bool :=
  cursor.before.any isWordChar != cursor.rest.head?.any isWordChar

end Cursor

namespace Pattern

section Repeated

variable {α : Type} (once : Cursor → (Cursor → Option α) → Option α) (next : Cursor → Option α)

/-- Repeat as often as possible. What reads nothing is not repeated. -/
def greedily (cursor : Cursor) : Option α :=
  (once cursor fun further =>
    if _shorter : further.rest.length < cursor.rest.length then greedily further else none).or
      (next cursor)
termination_by cursor.rest.length

def lazily (cursor : Cursor) : Option α :=
  (next cursor).or (once cursor fun further =>
    if _shorter : further.rest.length < cursor.rest.length then lazily further else none)
termination_by cursor.rest.length

end Repeated

/-- Match a pattern at a place, and go on with `next` after it. The ways to match are tried in the
order of preference, up to the first with which `next` gives an answer. -/
def attempt {α : Type} : Pattern → Cursor → (Cursor → Option α) → Option α
  | empty, cursor, next => next cursor
  | char set, cursor, next =>
    match cursor.rest with
    | [] => none
    | c :: _ => if set.holds c then next (cursor.forward 1) else none
  | wordBoundary, cursor, next => if cursor.isWordBoundary then next cursor else none
  | sequence first second, cursor, next =>
    first.attempt cursor fun further => second.attempt further next
  | choice first second, cursor, next => (first.attempt cursor next).or (second.attempt cursor next)
  | group body, cursor, next => body.attempt cursor next
  | named name body, cursor, next =>
    body.attempt cursor fun further => next (further.capture name cursor.offset)
  | repeated body .any, cursor, next => greedily body.attempt next cursor
  | repeated body .anyLazy, cursor, next => lazily body.attempt next cursor
  | repeated body .some, cursor, next => body.attempt cursor (greedily body.attempt next)
  | repeated body .optional, cursor, next => (body.attempt cursor next).or (next cursor)

def match? (pattern : Pattern) (cursor : Cursor) : Option Cursor :=
  pattern.attempt cursor some

/-- Search a text from a place on: after a match from its end, otherwise from the next character.
A match that reads nothing does not count where another has just ended. -/
def matchesFrom (pattern : Pattern) (justEnded : Bool) (seen rest : List Char) :
    List (List Capture) :=
  match pattern.match? ⟨seen, rest, []⟩ with
  | some stop =>
    if _shorter : stop.rest.length < rest.length then
      stop.captures :: matchesFrom pattern true stop.seen stop.rest
    else
      (if justEnded then [] else [stop.captures]) ++
        match rest with
        | [] => []
        | c :: more => matchesFrom pattern false (c :: seen) more
  | none =>
    match rest with
    | [] => []
    | c :: more => matchesFrom pattern false (c :: seen) more
termination_by rest.length

def allMatches (pattern : Pattern) (text : List Char) : List (List Capture) :=
  pattern.matchesFrom false [] text

end Pattern

/-- The first of some rules whose group took part in a match, with the ends of the group. -/
def matchedRule? (rules : List Category) (captures : List Capture) :
    Option (Category × Nat × Nat) :=
  rules.findSome? fun category =>
    (captures.find? (·.name == category.name)).map fun group =>
      (category, group.first, group.last)

end LexReport.Scan
