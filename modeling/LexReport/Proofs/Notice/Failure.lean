import LexReport.Notice.Code
import LexReport.Notice.Stage
import Mathlib.Data.List.Basic

/-! Steps of work that tell an error just if they fail, and then as their last word. One that breaks
off in a panic tells none. -/

set_option autoImplicit false

namespace LexReport

variable {ε δ α β : Type}

/-- The code of an error; a panic has none. -/
def Stop.code? (code : ε → Notice.Code) : Stop ε → Option Notice.Code
  | failed error => some (code error)
  | panicked => none

namespace Notice

variable {code : ε → Option Code}

def Quiet (events : List Event) : Prop := ∀ event ∈ events, event.level ≠ .error

theorem quiet_append {first rest : List Event} :
    Quiet (first ++ rest) ↔ Quiet first ∧ Quiet rest := List.forall_mem_append

theorem quiet_nil : Quiet [] := by simp [Quiet]

theorem quiet_singleton {event : Event} : Quiet [event] ↔ event.level ≠ .error :=
  List.forall_mem_singleton

/-- What is told on the way to an error: at last the error by its code, and none before. -/
def Fails (code : Code) (events : List Event) : Prop :=
  ∃ before told, events = before ++ [told] ∧ Quiet before ∧ told.level = .error ∧ told.code = code

theorem Fails.behind {code : Code} {before events : List Event} (quiet : Quiet before)
    (fails : Fails code events) : Fails code (before ++ events) := by
  obtain ⟨others, told, rfl, still, level, coded⟩ := fails
  exact ⟨before ++ others, told, (List.append_assoc _ _ _).symm, quiet_append.mpr ⟨quiet, still⟩,
    level, coded⟩

def Ends : Option Code → List Event → Prop
  | some code, events => Fails code events
  | none, events => Quiet events

theorem Ends.behind {code : Option Code} {before events : List Event} (quiet : Quiet before)
    (ends : Ends code events) : Ends code (before ++ events) := by
  cases code with
  | some code => exact Fails.behind quiet ends
  | none => exact quiet_append.mpr ⟨quiet, ends⟩

/-- A step tells no error if it succeeds, and the one that it ends with if it fails. -/
inductive Tells (code : ε → Option Code) : List Event → Except ε α → Prop where
  | quiet {events : List Event} {value : α} (quiet : Quiet events) : Tells code events (.ok value)
  | ends {events : List Event} {error : ε} (ends : Ends (code error) events) :
      Tells code events (.error error)

theorem Tells.behind {before events : List Event} {result : Except ε α} (quiet : Quiet before)
    (tells : Tells code events result) : Tells code (before ++ events) result := by
  cases tells with
  | quiet still => exact .quiet (quiet_append.mpr ⟨quiet, still⟩)
  | ends ends => exact .ends (ends.behind quiet)

namespace Stage

def IsTelling (code : ε → Option Code) (stage : Stage ε α) : Prop :=
  Notice.Tells code stage.events stage.result

theorem IsTelling.quiet_of_ok {stage : Stage ε α} {value : α} (tells : stage.IsTelling code)
    (ok : stage.result = .ok value) : Quiet stage.events := by
  obtain ⟨events, result⟩ := stage
  cases tells with
  | quiet quiet => exact quiet
  | ends => contradiction

theorem IsTelling.ends_of_error {stage : Stage ε α} {error : ε} (tells : stage.IsTelling code)
    (failed : stage.result = .error error) : Ends (code error) stage.events := by
  obtain ⟨events, result⟩ := stage
  cases tells with
  | quiet => contradiction
  | ends ends =>
    obtain rfl := Except.error.inj failed
    exact ends

theorem isTelling_pure (value : α) : (pure value : Stage ε α).IsTelling code := .quiet quiet_nil

theorem isTelling_announce {event : Event} (level : event.level ≠ .error) :
    (announce event : Stage ε Unit).IsTelling code := .quiet (quiet_singleton.mpr level)

theorem isTelling_fail {error : ε} {event : Event} (level : event.level = .error)
    (coded : code error = some event.code) : (fail error event : Stage ε α).IsTelling code :=
  .ends (coded ▸ ⟨[], event, rfl, quiet_nil, level, rfl⟩)

theorem isTelling_bind {stage : Stage ε α} {next : α → Stage ε β} (first : stage.IsTelling code)
    (goesOn : ∀ value, stage.result = .ok value → (next value).IsTelling code) :
    (stage >>= next).IsTelling code := by
  obtain ⟨events, result⟩ := stage
  cases first with
  | quiet quiet =>
    rw [bind_of_ok next rfl]
    exact (goesOn _ rfl).behind quiet
  | ends ends =>
    rw [bind_of_error next rfl]
    exact .ends ends

theorem isTelling_mapError {stage : Stage ε α} {f : ε → δ} {other : δ → Option Code}
    (same : ∀ error, other (f error) = code error) (first : stage.IsTelling code) :
    (stage.mapError f).IsTelling other := by
  obtain ⟨events, result⟩ := stage
  cases first with
  | quiet quiet => exact .quiet quiet
  | ends ends => exact .ends (same _ ▸ ends)

theorem isTelling_forM {events : List Event} (quiet : Quiet events) :
    (events.forM (announce (ε := ε))).IsTelling code := by
  induction events with
  | nil => exact isTelling_pure ()
  | cons event rest ih =>
    obtain ⟨here, others⟩ := List.forall_mem_cons.mp quiet
    exact isTelling_bind (isTelling_announce here) fun _ _ => ih others

end Stage

end Notice

end LexReport
