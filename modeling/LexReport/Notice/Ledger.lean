import LexReport.Files.Path
import LexReport.Limits
import LexReport.Notice.Event

/-! Errors and warnings kept by file. A file keeps its first events, up to a limit, and after them
one marker that says so; all files together keep no more than another limit. -/

set_option autoImplicit false

namespace LexReport.Notice

open Files

structure FileScope where
  path : String
  number : Nat
  deriving DecidableEq, Repr, Inhabited

/-- The events of one file, under the first spelling of its path. -/
structure FileEvents where
  path : String
  events : List Event
  deriving DecidableEq, Repr, Inhabited

structure Ledger where
  /-- In the order of their paths, no two of which are the same. -/
  files : List FileEvents
  /-- The files that were worked on, no two the same. -/
  visited : List String
  deriving DecidableEq, Repr, Inhabited

namespace Ledger

def empty : Ledger := ⟨[], []⟩

def countAll (count : List Event → Nat) : List FileEvents → Nat
  | [] => 0
  | file :: rest => count file.events + countAll count rest

def total (ledger : Ledger) : Nat := countAll List.length ledger.files

def marker (limits : NoticeLimits) : Event :=
  .warning .plainWarning
    ("Too many events for file (limit: " ++ toString limits.maxPerFile ++ ")")

/-- Add an event to those of a file, or the marker, or nothing. -/
def keep (limits : NoticeLimits) (event : Event) (events : List Event) : List Event :=
  if events.length < limits.maxPerFile then events ++ [event]
  else if events.length = limits.maxPerFile then events ++ [marker limits]
  else events

def update (path : String) (change : List Event → List Event) :
    List FileEvents → List FileEvents
  | [] => [⟨path, change []⟩]
  | file :: rest =>
    match Path.order path file.path with
    | .lt => ⟨path, change []⟩ :: file :: rest
    | .eq => ⟨file.path, change file.events⟩ :: rest
    | .gt => file :: update path change rest

def record (limits : NoticeLimits) (ledger : Ledger) (path : String) (event : Event) : Ledger :=
  if limits.maxCollected ≤ ledger.total then ledger
  else { ledger with files := update path (keep limits event) ledger.files }

def isSame (first second : String) : Bool :=
  Path.order first second == .eq

def visit (ledger : Ledger) (path : String) : Ledger :=
  if ledger.visited.any (isSame path) then ledger
  else { ledger with visited := path :: ledger.visited }

def eventsOf (ledger : Ledger) (path : String) : List Event :=
  match ledger.files.find? fun file => isSame path file.path with
  | some file => file.events
  | none => []

def countLevel (level : Level) (events : List Event) : Nat :=
  events.countP fun event => event.level == level

def errorCount (ledger : Ledger) (path : String) : Nat :=
  countLevel .error (ledger.eventsOf path)

def warningCount (ledger : Ledger) (path : String) : Nat :=
  countLevel .warning (ledger.eventsOf path)

def critical (ledger : Ledger) : List (String × Event) :=
  ledger.files.flatMap fun file =>
    (file.events.filter Event.isCritical).map fun event => (file.path, event)

structure Totals where
  files : Nat
  /-- Files with an error. -/
  failed : Nat
  /-- Files with a warning and no error. -/
  withWarnings : Nat
  errors : Nat
  warnings : Nat
  deriving DecidableEq, Repr, Inhabited

def totals (ledger : Ledger) : Totals where
  files := max ledger.visited.length ledger.files.length
  failed := ledger.files.countP fun file => countLevel .error file.events != 0
  withWarnings := ledger.files.countP fun file =>
    countLevel .error file.events == 0 && countLevel .warning file.events != 0
  errors := countAll (countLevel .error) ledger.files
  warnings := countAll (countLevel .warning) ledger.files

section Digest

def placeText (path : String) (event : Event) : String :=
  match event.span with
  | some span => " --> " ++ path ++ ":" ++ span.first.text
  | none => ""

def detailLines (event : Event) : String :=
  String.join ((event.context.filter fun pair => pair.1 != "file").map fun (name, value) =>
    "  = " ++ name ++ ": " ++ value ++ "\n")

def headline (label path : String) (event : Event) : String :=
  label ++ "[" ++ event.code.text ++ "]: " ++ event.message ++ placeText path event ++ "\n"

def errorLines (path : String) (event : Event) : String :=
  let help :=
    if event.code.action = Code.noAction then "" else "  = help: " ++ event.code.action ++ "\n"
  headline "error" path event ++
    "  = severity: " ++ event.code.severity.label ++ ", category: " ++ event.code.category ++
    "\n" ++ detailLines event ++ help

def warningLines (path : String) (event : Event) : String :=
  headline "warning" path event ++ detailLines event

def fileLines (file : FileEvents) : String :=
  if file.events.isEmpty then ""
  else
    "Checking " ++ file.path ++ "...\n" ++
      String.join ((file.events.filter (·.level == .error)).map (errorLines file.path)) ++
      String.join ((file.events.filter (·.level == .warning)).map (warningLines file.path)) ++ "\n"

def digest (ledger : Ledger) : String :=
  let totals := ledger.totals
  String.join (ledger.files.map fileLines) ++
    (if totals.errors = 0 then "" else "Total errors: " ++ toString totals.errors ++ "\n") ++
    (if totals.warnings = 0 then "" else "Total warnings: " ++ toString totals.warnings ++ "\n")

end Digest

end Ledger

end LexReport.Notice
