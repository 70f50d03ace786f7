import LexReport.Config.Preferences
import LexReport.Notice.Stage
import LexReport.Symbol.Class
import LexReport.Symbol.Error
import LexReport.Token.Basic
import Std.Data.HashSet

/-! The symbol table: the distinct pairs of a lexeme and its class, in the order of their first
appearance and with the place of it. -/

set_option autoImplicit false

namespace LexReport.Symbol

structure Entry where
  name : String
  kind : Class
  firstSeen : Source.Span
  deriving DecidableEq, Repr, Inhabited

/-- What makes two entries the same symbol. -/
def Entry.key (entry : Entry) : String × Class := (entry.name, entry.kind)

structure Draft where
  entries : Array Entry
  /-- The keys of the entries. -/
  keys : Std.HashSet (String × Class)
  /-- Whether a symbol was dropped because the table was full. -/
  isTruncated : Bool

namespace Draft

def empty : Draft := ⟨#[], ∅, false⟩

instance : Inhabited Draft := ⟨empty⟩

structure Offered where
  /-- Whether the symbol was new. -/
  outcome : Except Error Bool
  draft : Draft
  events : List Notice.Event

/-- Told once, when the first symbol is dropped. -/
def fullEvent (limits : SymbolLimits) (span : Source.Span) : Notice.Event :=
  ((Notice.Event.warning .symbolLimitExceeded
    "Symbol table is full, further entries are dropped").located span).detail
      "limit" (toString limits.maxSymbolEntries)

def offer (limits : SymbolLimits) (preferences : SymbolPreferences) (draft : Draft)
    (name : String) (kind : Class) (span : Source.Span) : Offered :=
  match draft with
  | ⟨entries, keys, isTruncated⟩ =>
    if keys.contains (name, kind) then ⟨.ok false, ⟨entries, keys, isTruncated⟩, []⟩
    else if limits.maxSymbolEntries ≤ entries.size then
      if preferences.enforceLimit then
        ⟨.error (.tableFull name), ⟨entries, keys, isTruncated⟩, []⟩
      else
        ⟨.ok false, ⟨entries, keys, true⟩, if isTruncated then [] else [fullEvent limits span]⟩
    else
      ⟨.ok true, ⟨entries.push ⟨name, kind, span⟩, keys.insert (name, kind), isTruncated⟩, []⟩

structure Filled where
  /-- The error at which the filling stopped. -/
  stopped : Option Error
  draft : Draft
  events : List Notice.Event

def fill (limits : SymbolLimits) (preferences : SymbolPreferences) (draft : Draft)
    (events : List Notice.Event) : List Token → Filled
  | [] => ⟨none, draft, events⟩
  | token :: rest =>
    match Class.ofCategory? token.category with
    | none => fill limits preferences draft events rest
    | some kind =>
      match offer limits preferences draft token.lexeme kind token.span with
      | ⟨.error error, draft, more⟩ => ⟨some error, draft, events ++ more⟩
      | ⟨.ok _, draft, more⟩ => fill limits preferences draft (events ++ more) rest

end Draft

structure Table where
  entries : List Entry
  deriving DecidableEq, Repr, Inhabited

namespace Table

def size (table : Table) : Nat := table.entries.length

def contains (table : Table) (name : String) (kind : Class) : Bool :=
  table.entries.any fun entry => entry.key == (name, kind)

def pairs (table : Table) : List (String × String) :=
  table.entries.map fun entry => (entry.name, entry.kind.label)

end Table

def Draft.table (draft : Draft) : Table := ⟨draft.entries.toList⟩

open Notice in
def tabulate (limits : SymbolLimits) (preferences : SymbolPreferences) (tokens : List Token) :
    Stage Error Table := do
  Stage.announce ((Event.debug "Building symbol table").detail "tokens" (toString tokens.length))
  let filled := Draft.empty.fill limits preferences [] tokens
  filled.events.forM Stage.announce
  match filled.stopped with
  | some error => Stage.fail error (.error error.code (error.message limits))
  | none =>
    let table := filled.draft.table
    Stage.announce ((Event.success .symbolTableBuilt "Symbol table built").details
      [("unique_symbols", toString table.size),
        ("truncated", toString filled.draft.isTruncated)])
    return table

end LexReport.Symbol
