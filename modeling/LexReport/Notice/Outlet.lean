import LexReport.Notice.Line
import LexReport.Notice.Recent

/-! Where events go: to a store of the newest, or to a screen, behind limits on their level. -/

set_option autoImplicit false

namespace LexReport.Notice

inductive Layout where
  | plain
  | json
  deriving DecidableEq, Repr

inductive Target where
  | store (recent : Recent)
  /-- A screen with the events shown on it so far. -/
  | screen (layout : Layout) (level : Level) (shown : Array Event)
  deriving Repr

namespace Target

def log (limits : NoticeLimits) (event : Event) : Target → Target
  | store recent => store (recent.log limits event)
  | screen layout level shown =>
    screen layout level (if event.level.isWithin level then shown.push event else shown)

def lineOf (moment : Instant) (layout : Layout) (event : Event) : String :=
  match layout with
  | .plain => event.line
  | .json => event.jsonLine moment

def lines (moment : Instant) : Target → List String
  | store _ => []
  | screen layout _ shown => shown.toList.map (lineOf moment layout)

end Target

/-- Targets that all get the events up to a level. -/
structure Fan where
  level : Level
  targets : List Target
  deriving Repr

namespace Fan

def log (limits : NoticeLimits) (fan : Fan) (event : Event) : Fan :=
  match fan with
  | ⟨level, targets⟩ =>
    if event.level.isWithin level then ⟨level, targets.map (Target.log limits event)⟩
    else ⟨level, targets⟩

def recent (fan : Fan) : Recent :=
  (fan.targets.findSome? fun target =>
    match target with
    | .store recent => some recent
    | .screen .. => none).getD .empty

def ofStore : Fan := ⟨.debug, [.store .empty]⟩

end Fan

/-- A fan behind a level of its own, which may be changed. -/
structure Outlet where
  level : Level
  fan : Fan
  deriving Repr

namespace Outlet

def log (limits : NoticeLimits) (outlet : Outlet) (event : Event) : Outlet :=
  match outlet with
  | ⟨level, fan⟩ =>
    if event.level.isWithin level then ⟨level, fan.log limits event⟩ else ⟨level, fan⟩

def recent (outlet : Outlet) : Recent := outlet.fan.recent

end Outlet

end LexReport.Notice
