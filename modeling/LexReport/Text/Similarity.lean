/-! How alike two words are, after Jaro: by the characters that they share at nearby places, and by
how many of these are out of order. -/

set_option autoImplicit false

namespace LexReport.Text

/-- Two characters match only if their places differ by no more than this. -/
def matchRange (first second : List Char) : Nat :=
  max first.length second.length / 2 - 1

def matchPlace? (range place : Nat) (c : Char) (word : List Char) (taken : List Nat) : Option Nat :=
  (List.range word.length).find? fun other =>
    place ≤ other + range && other ≤ place + range && word[other]? == some c &&
      !taken.contains other

/-- For each character of the first word that matches, its place and that of its match; later
places first. -/
def matchPlaces (first second : List Char) : List (Nat × Nat) :=
  first.zipIdx.foldl
    (fun done (c, place) =>
      match matchPlace? (matchRange first second) place c second (done.map (·.2)) with
      | some other => (place, other) :: done
      | none => done)
    []

def charsAt (places : List Nat) (word : List Char) : List Char :=
  word.zipIdx.filterMap fun (c, place) => if places.contains place then some c else none

/-- Half of the shared characters that are not at the same turn in both words. -/
def transpositions (matched : List (Nat × Nat)) (first second : List Char) : Nat :=
  let pairs := (charsAt (matched.map (·.1)) first).zip (charsAt (matched.map (·.2)) second)
  pairs.countP (fun pair => pair.1 != pair.2) / 2

/-- The mean of three shares, rounded at each step: of the first word that is shared, of the second
word that is, and of what is shared that is in order. Nothing is like a word it shares no character
with. -/
def similarity (first second : List Char) : Float :=
  let matched := matchPlaces first second
  let shared := Float.ofNat matched.length
  let inOrder := Float.ofNat (matched.length - transpositions matched first second)
  if matched.length = 0 then 0
  else
    (shared / Float.ofNat first.length + shared / Float.ofNat second.length + inOrder / shared) / 3

end LexReport.Text
