import LexReport.Config.Preferences
import LexReport.Text.Bytes
import LexReport.Token.Category

/-! Counts over a scan. -/

set_option autoImplicit false

namespace LexReport.Scan

abbrev Tally (κ : Type) := List (κ × Nat)

namespace Tally

variable {κ : Type} [DecidableEq κ]

def add (key : κ) : Tally κ → Tally κ
  | [] => [(key, 1)]
  | (other, count) :: rest =>
    if other = key then (other, count + 1) :: rest else (other, count) :: add key rest

def count (tally : Tally κ) (key : κ) : Nat :=
  (tally.lookup key).getD 0

/-- The keys that occurred, in the order of a list that holds them all. -/
def inOrder (keys : List κ) (tally : Tally κ) : Tally κ :=
  keys.filterMap fun key => (tally.lookup key).map (key, ·)

end Tally

structure Metrics where
  tokens : Nat := 0
  datatypes : Nat := 0
  keywords : Nat := 0
  identifiers : Nat := 0
  operators : Nat := 0
  literals : Nat := 0
  /-- Matches that are left out of the tokens. -/
  suppressed : Nat := 0
  comments : Nat := 0
  longestComment : Nat := 0
  longestString : Nat := 0
  gaps : Nat := 0
  gapChars : Nat := 0
  /-- Matches of each category, suppressed ones included; empty unless details are wanted. -/
  byCategory : Tally Category := []
  /-- Uses of each operator; empty unless operators are tracked. -/
  byOperator : Tally String := []
  deriving DecidableEq, Repr, Inhabited

namespace Metrics

/-- Count one match; its final category may differ from that of the rule. -/
def addMatch (preferences : LexicalPreferences) (metrics : Metrics) (category : Category)
    (lexeme : String) : Metrics :=
  let size := lexeme.utf8ByteSize
  let metrics :=
    if preferences.collectDetails then
      { metrics with byCategory := metrics.byCategory.add category }
    else metrics
  if category.isSuppressed then
    let metrics := { metrics with suppressed := metrics.suppressed + 1 }
    if category = .comment then
      { metrics with
        comments := metrics.comments + 1
        longestComment := max metrics.longestComment size }
    else metrics
  else
    let metrics := { metrics with tokens := metrics.tokens + 1 }
    match category with
    | .datatype => { metrics with datatypes := metrics.datatypes + 1 }
    | .keyword => { metrics with keywords := metrics.keywords + 1 }
    | .identifier => { metrics with identifiers := metrics.identifiers + 1 }
    | .constant | .charLiteral => { metrics with literals := metrics.literals + 1 }
    | .stringLiteral =>
      { metrics with
        literals := metrics.literals + 1
        longestString := max metrics.longestString size }
    | .increment | .decrement | .assignment | .arithmetic | .relational =>
      let metrics := { metrics with operators := metrics.operators + 1 }
      if preferences.trackOperators then
        { metrics with byOperator := metrics.byOperator.add lexeme }
      else metrics
    | _ => metrics

def addGap (metrics : Metrics) (text : List Char) : Metrics :=
  { metrics with gaps := metrics.gaps + 1, gapChars := metrics.gapChars + text.length }

end Metrics

end LexReport.Scan
