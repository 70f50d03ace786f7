import LexReport.Config.Preferences
import LexReport.Notice.Ledger
import LexReport.Notice.Outlet
import LexReport.Text.Bytes

/-! The journal of a process: events are told to it, it puts them under the file at hand, and it
passes them on. -/

set_option autoImplicit false

namespace LexReport.Notice

structure Journal where
  preferences : NoticePreferences
  /-- The file at hand. -/
  scope : Option FileScope
  ledger : Ledger
  outlet : Outlet

namespace Journal

/-- The form in which an event is kept and passed on: its message is cut, and the file at hand is
named if that is wanted. -/
def stamped (limits : NoticeLimits) (preferences : NoticePreferences) (scope : Option FileScope)
    (event : Event) : Event :=
  let event := { event with message := Text.clipped limits.maxMessageLength event.message }
  match scope with
  | some file => if preferences.nameFile then event.detail "file" file.path else event
  | none => event

/-- Errors and warnings are kept for the file at hand. -/
def collect (limits : NoticeLimits) (scope : Option FileScope) (ledger : Ledger) (event : Event) :
    Ledger :=
  match scope with
  | some file => if event.isProblem then ledger.record limits file.path event else ledger
  | none => ledger

def tell (limits : NoticeLimits) (journal : Journal) (event : Event) : Journal :=
  match journal with
  | ⟨preferences, scope, ledger, outlet⟩ =>
    let event := stamped limits preferences scope event
    ⟨preferences, scope, collect limits scope ledger event, outlet.log limits event⟩

def tellAll (limits : NoticeLimits) (journal : Journal) (events : List Event) : Journal :=
  events.foldl (tell limits) journal

def pass (limits : NoticeLimits) (journal : Journal) (event : Event) : Journal :=
  { journal with outlet := journal.outlet.log limits event }

def enter (journal : Journal) (file : FileScope) : Journal :=
  { journal with scope := some file, ledger := journal.ledger.visit file.path }

def leave (journal : Journal) : Journal :=
  { journal with scope := none }

def forget (journal : Journal) : Journal :=
  { journal with ledger := .empty }

/-- Do something while a file is at hand; afterwards none is. -/
def within {α : Type} (journal : Journal) (file : FileScope) (work : Journal → α × Journal) :
    α × Journal :=
  let (result, journal) := work (journal.enter file)
  (result, journal.leave)

end Journal

end LexReport.Notice
