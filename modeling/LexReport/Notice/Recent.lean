import LexReport.Limits
import LexReport.Notice.Event

/-! The newest events, up to a limit. -/

set_option autoImplicit false

namespace LexReport.Notice

structure Recent where
  /-- Oldest first. -/
  held : Array Event
  deriving Repr, Inhabited

namespace Recent

def empty : Recent := ⟨#[]⟩

/-- Room is made for one more event by letting go of the oldest. -/
def log (limits : NoticeLimits) (recent : Recent) (event : Event) : Recent :=
  match recent with
  | ⟨held⟩ =>
    if limits.maxCollected ≤ held.size then
      ⟨(held.extract (held.size - limits.maxCollected + 1) held.size).push event⟩
    else ⟨held.push event⟩

def events (recent : Recent) : List Event := recent.held.toList

def ofLevel (recent : Recent) (level : Level) : List Event :=
  recent.events.filter fun event => event.level == level

def has (recent : Recent) (level : Level) (code : Code) : Bool :=
  recent.events.any fun event => event.level == level && event.code == code

structure Totals where
  events : Nat
  errors : Nat
  warnings : Nat
  infos : Nat
  debugs : Nat
  critical : Nat
  deriving DecidableEq, Repr, Inhabited

def totals (recent : Recent) : Totals where
  events := recent.events.length
  errors := (recent.ofLevel .error).length
  warnings := (recent.ofLevel .warning).length
  infos := (recent.ofLevel .info).length
  debugs := (recent.ofLevel .debug).length
  critical := recent.events.countP Event.isCritical

end Recent

end LexReport.Notice
