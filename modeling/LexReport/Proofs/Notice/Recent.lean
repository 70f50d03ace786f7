import LexReport.Notice.Overview
import Mathlib.Data.List.DropRight

/-! What a store of the newest events holds after any calls: the last events logged since it was
last cleared, as many as the limit allows. One event more lets go of one at most. -/

set_option autoImplicit false

namespace LexReport.Notice.Recent

inductive Call where
  | log (event : Event)
  | clear

def Call.event? : Call → Option Event
  | log event => some event
  | clear => none

/-- The events logged since the last call that cleared, oldest first. -/
def logged (made : List Call) : List Event :=
  (made.rtakeWhile fun call => call.event?.isSome).filterMap Call.event?

section Definitions

variable (limits : NoticeLimits)

def call (recent : Recent) : Call → Recent
  | .log event => recent.log limits event
  | .clear => .empty

def after (made : List Call) : Recent := made.foldl (call limits) .empty

def released (recent : Recent) : Nat :=
  if limits.maxCollected ≤ recent.events.length then
    recent.events.length - limits.maxCollected + 1
  else 0

/-- What a store holds of the events that were logged: the last of them, in their order. -/
structure Holds (logged : List Event) (recent : Recent) : Prop where
  newest : recent.events <:+ logged
  number : recent.events.length = min logged.length limits.maxCollected

end Definitions

variable {limits : NoticeLimits} {recent : Recent} {earlier : List Event}

section Steps

theorem events_log (limits : NoticeLimits) (recent : Recent) (event : Event) :
    (recent.log limits event).events =
      recent.events.drop (recent.released limits) ++ [event] := by
  obtain ⟨held⟩ := recent
  by_cases full : limits.maxCollected ≤ held.size
  · have gone : released limits ⟨held⟩ = held.size - limits.maxCollected + 1 := if_pos full
    rw [log, if_pos full, gone, events, Array.toList_push, Array.toList_extract,
      List.extract_eq_take_drop, List.take_of_length_le]
    · rfl
    · rw [List.length_drop, Array.length_toList]
  · have gone : released limits ⟨held⟩ = 0 := if_neg full
    rw [log, if_neg full, gone, events, Array.toList_push, List.drop_zero]
    rfl

/-- No store holds more than the limit, so that it lets go of one event when it is full. -/
theorem Holds.released (holds : Holds limits earlier recent) :
    recent.released limits = if limits.maxCollected ≤ earlier.length then 1 else 0 := by
  have number := holds.number
  rw [Recent.released]
  split <;> split <;> omega

theorem Holds.log (room : 0 < limits.maxCollected) (holds : Holds limits earlier recent)
    (event : Event) : Holds limits (earlier ++ [event]) (recent.log limits event) where
  newest := by
    rw [events_log, List.suffix_append_self_iff]
    exact (List.drop_suffix _ _).trans holds.newest
  number := by
    have number := holds.number
    rw [events_log, holds.released, List.length_append, List.length_drop, List.length_append,
      List.length_singleton]
    split <;> omega

theorem holds_empty (limits : NoticeLimits) : Holds limits [] .empty where
  newest := List.suffix_refl []
  number := (Nat.zero_min _).symm

end Steps

section Runs

theorem logged_log (made : List Call) (event : Event) :
    logged (made ++ [.log event]) = logged made ++ [event] := by
  rw [logged, List.rtakeWhile_concat_pos _ _ _ rfl, List.filterMap_append]
  rfl

theorem logged_clear (made : List Call) : logged (made ++ [.clear]) = [] := by
  rw [logged, List.rtakeWhile_concat_neg _ _ _ (by decide)]
  rfl

theorem after_concat (limits : NoticeLimits) (made : List Call) (next : Call) :
    after limits (made ++ [next]) = (after limits made).call limits next := by
  rw [after, List.foldl_append]
  rfl

theorem after_holds (room : 0 < limits.maxCollected) (made : List Call) :
    Holds limits (logged made) (after limits made) := by
  -- From the end, as what was logged since the last clearing grows there or starts anew.
  induction made using List.reverseRecOn with
  | nil => exact holds_empty limits
  | append_singleton made next ih =>
    rw [after_concat]
    cases next with
    | log event =>
      rw [logged_log]
      exact ih.log room event
    | clear =>
      rw [logged_clear]
      exact holds_empty limits

end Runs

theorem length_of_levels (events : List Event) :
    (events.filter fun event => event.level == .error).length +
        (events.filter fun event => event.level == .warning).length +
        (events.filter fun event => event.level == .info).length +
        (events.filter fun event => event.level == .debug).length =
      events.length := by
  induction events with
  | nil => rfl
  | cons event events ih =>
    cases level : event.level <;> simp [level] at ih ⊢ <;> omega

/-- Limits that are accepted at the start leave room for an event. -/
theorem maxCollected_pos (accepted : limitsProblem? limits = none) : 0 < limits.maxCollected := by
  rw [limitsProblem?] at accepted
  split at accepted
  · contradiction
  · exact Nat.pos_of_ne_zero ‹_›

/-- After any calls a store with room for an event holds the last of the events logged since it was
last cleared, in their order, and as many as the limit allows. Whatever is logged next, it lets go
of no more than the oldest one that it holds, and keeps all others in front of the new one. The
totals by level add up to the number of events that are held. -/
theorem newest_of_calls (limits : NoticeLimits) (room : 0 < limits.maxCollected)
    (made : List Call) :
    let recent := after limits made
    Holds limits (logged made) recent ∧
    (recent.released limits ≤ 1 ∧ recent.released limits ≤ recent.events.length ∧
      ∀ event, (recent.log limits event).events =
        recent.events.drop (recent.released limits) ++ [event]) ∧
    recent.totals.events = recent.events.length ∧
    recent.totals.errors + recent.totals.warnings + recent.totals.infos + recent.totals.debugs =
      recent.events.length := by
  intro recent
  have holds : Holds limits (logged made) recent := after_holds room made
  have gone := holds.released
  have number := holds.number
  refine ⟨holds, ⟨?_, ?_, events_log limits recent⟩, rfl, length_of_levels recent.events⟩
  · rw [gone]
    split <;> decide
  · rw [gone]
    split <;> omega

/-- Of three events since the store was cleared, two are held, and the next one takes the place of
the first of them. -/
theorem newest_of_calls_cleared :
    let limits : NoticeLimits := ⟨2, 64, 1, 2⟩
    let second := Event.error .internalError "second"
    let third := Event.debug "third"
    let made := [Call.log (.info "before"), .log third, .clear,
      .log (.warning .plainWarning "first"), .log second, .log third]
    0 < limits.maxCollected ∧ (after limits made).events = [second, third] ∧
      (after limits made).released limits = 1 ∧
      (∀ event, ((after limits made).log limits event).events = [third, event]) ∧
      (after limits made).totals.errors + (after limits made).totals.warnings +
        (after limits made).totals.infos + (after limits made).totals.debugs = 2 := by
  intro limits second third made
  have room : 0 < limits.maxCollected := maxCollected_pos rfl
  obtain ⟨holds, ⟨-, -, next⟩, -, levels⟩ := newest_of_calls limits room made
  have two : (after limits made).events.length = 2 := holds.number
  have held : (after limits made).events = [second, third] := by
    rw [List.suffix_iff_eq_drop.mp holds.newest, two]
    rfl
  have one : (after limits made).released limits = 1 := holds.released
  refine ⟨room, held, one, fun event => ?_, levels.trans two⟩
  rw [next event, one, held]
  rfl

end LexReport.Notice.Recent
