import LexReport.Proofs.Notice.Ledger
import LexReport.Proofs.Notice.Sorted
import Mathlib.Data.List.DropRight

/-! What a ledger holds after any calls. Since it last forgot, each file keeps the first events that
were offered for it while there was room over all, and one marker if there were more. Once there is
no room left, only forgetting changes what is kept. -/

set_option autoImplicit false

namespace LexReport.Notice.Ledger

open Files

inductive Call where
  /-- Keep an event for a file. -/
  | record (path : String) (event : Event)
  /-- Note that a file is worked on. -/
  | visit (path : String)
  | forget

def Call.isForget : Call → Bool
  | forget => true
  | record _ _ | visit _ => false

section Definitions

variable (limits : NoticeLimits)

def call (ledger : Ledger) : Call → Ledger
  | .record path event => ledger.record limits path event
  | .visit path => ledger.visit path
  | .forget => .empty

def calls (ledger : Ledger) (made : List Call) : Ledger := made.foldl (call limits) ledger

def after (made : List Call) : Ledger := calls limits .empty made

def recent (made : List Call) : List Call := made.rtakeWhile fun call => !call.isForget

/-- The events that are offered while there is room for more, each with its path. -/
def offers (ledger : Ledger) : List Call → List (String × Event)
  | [] => []
  | .record path event :: rest =>
    (if ledger.total < limits.maxCollected then [(path, event)] else []) ++
      offers (ledger.record limits path event) rest
  | other :: rest => offers (ledger.call limits other) rest

end Definitions

def offersAt (key : List Part) (offered : List (String × Event)) : List Event :=
  (offered.filter fun offer => key = Path.parts offer.1).map Prod.snd

structure Holds (limits : NoticeLimits) (offered : List (String × Event))
    (files : List FileEvents) : Prop where
  sorted : Sorted files
  filled : ∀ file ∈ files, file.events ≠ []
  total : countAll List.length files ≤ limits.maxCollected
  events : ∀ key, eventsAt key files = filed limits (offersAt key offered)

variable {limits : NoticeLimits} {offered : List (String × Event)} {ledger : Ledger}
  {path : String} {event : Event} {made : List Call}

section Steps

theorem total_update_le (files : List FileEvents) {change : List Event → List Event}
    (longer : ∀ events, (change events).length ≤ events.length + 1) (path : String) :
    countAll List.length (update path change files) ≤ countAll List.length files + 1 := by
  induction files with
  | nil => exact longer []
  | cons first rest ih =>
    rw [update]
    split
    · have one : (change []).length ≤ 1 := longer []
      simp only [countAll]
      omega
    · have one := longer first.events
      simp only [countAll]
      omega
    · simp only [countAll]
      omega

theorem offersAt_concat (key : List Part) (offered : List (String × Event)) (path : String)
    (event : Event) :
    offersAt key (offered ++ [(path, event)]) =
      if key = Path.parts path then offersAt key offered ++ [event] else offersAt key offered := by
  by_cases same : key = Path.parts path <;> simp [offersAt, same]

theorem record_of_full (full : limits.maxCollected ≤ ledger.total) (path : String)
    (event : Event) : ledger.record limits path event = ledger := if_pos full

theorem Holds.record (holds : Holds limits offered ledger.files) (path : String) (event : Event) :
    Holds limits (offered ++ if ledger.total < limits.maxCollected then [(path, event)] else [])
      (ledger.record limits path event).files := by
  by_cases full : limits.maxCollected ≤ ledger.total
  · rw [record_of_full full, if_neg (Nat.not_lt.mpr full), List.append_nil]
    exact holds
  · have room : ledger.total < limits.maxCollected := Nat.lt_of_not_le full
    rw [Ledger.record, if_neg full, if_pos room]
    refine ⟨holds.sorted.update _ _, ?_, ?_, fun key => ?_⟩
    · exact forall_update (fun file => file.events ≠ []) (keep_ne_nil _ _)
        (fun _ _ _ => keep_ne_nil _ _) holds.filled
    · exact Nat.le_trans (total_update_le _ (length_keep_le limits event) path) room
    · dsimp only
      rw [eventsAt_update holds.sorted, holds.events, offersAt_concat, keep_filed]
      split <;> rfl

theorem files_visit (ledger : Ledger) (path : String) :
    (ledger.visit path).files = ledger.files := by
  rw [visit]
  split <;> rfl

end Steps

section Runs

theorem calls_append (ledger : Ledger) (made more : List Call) :
    ledger.calls limits (made ++ more) = (ledger.calls limits made).calls limits more :=
  List.foldl_append

theorem after_concat (limits : NoticeLimits) (made : List Call) (call : Call) :
    after limits (made ++ [call]) = (after limits made).call limits call :=
  calls_append .empty made [call]

theorem offers_append (ledger : Ledger) (made more : List Call) :
    ledger.offers limits (made ++ more) =
      ledger.offers limits made ++ (ledger.calls limits made).offers limits more := by
  induction made generalizing ledger with
  | nil => rfl
  | cons first rest ih =>
    cases first with
    | record path event =>
      rw [List.cons_append, offers, offers, ih, List.append_assoc]
      rfl
    | visit path => exact ih (ledger.visit path)
    | forget => exact ih .empty

theorem recent_concat (call : Call) (keeps : call.isForget = false) (made : List Call) :
    recent (made ++ [call]) = recent made ++ [call] :=
  List.rtakeWhile_concat_pos _ _ _ (by simp [keeps])

theorem recent_forget (made : List Call) : recent (made ++ [.forget]) = [] :=
  List.rtakeWhile_concat_neg _ _ _ (by simp [Call.isForget])

/-- What was asked before a ledger last forgot does not matter. -/
theorem after_recent (limits : NoticeLimits) (made : List Call) :
    after limits (recent made) = after limits made := by
  induction made using List.reverseRecOn with
  | nil => rfl
  | append_singleton made call ih =>
    cases forgets : call.isForget with
    | false =>
      rw [recent_concat call forgets, after_concat, after_concat, ih]
    | true =>
      cases call with
      | forget =>
        rw [recent_forget, after_concat]
        rfl
      | record | visit => contradiction

theorem holds_empty (limits : NoticeLimits) : Holds limits [] Ledger.empty.files where
  sorted := List.Pairwise.nil
  filled := nofun
  total := Nat.zero_le _
  events _ := by simp [empty, eventsAt, offersAt, filed]

theorem after_holds (limits : NoticeLimits) (made : List Call) :
    Holds limits (offers limits .empty (recent made)) (after limits made).files := by
  -- From the end: the last call is recent with all recent ones before it, or it forgets them.
  induction made using List.reverseRecOn with
  | nil => exact holds_empty limits
  | append_singleton made call ih =>
    have reached : Ledger.empty.calls limits (recent made) = after limits made :=
      after_recent limits made
    cases call with
    | record path event =>
      rw [recent_concat _ rfl, offers_append, reached, after_concat]
      simpa [offers, call] using ih.record path event
    | visit path =>
      have same : ((after limits made).call limits (.visit path)).files =
          (after limits made).files := files_visit _ path
      rw [recent_concat _ rfl, offers_append, reached, after_concat, same]
      simpa [offers] using ih
    | forget =>
      rw [recent_forget, after_concat]
      exact holds_empty limits

theorem files_of_full (full : limits.maxCollected ≤ ledger.total)
    (keeps : ∀ call ∈ made, call.isForget = false) :
    (ledger.calls limits made).files = ledger.files := by
  -- The ledger varies, since the files that were visited do; there is never room again.
  induction made generalizing ledger with
  | nil => rfl
  | cons first rest ih =>
    rw [List.forall_mem_cons] at keeps
    cases first with
    | record path event =>
      show ((ledger.record limits path event).calls limits rest).files = _
      rw [record_of_full full, ih full keeps.2]
    | visit path =>
      have same := files_visit ledger path
      have stillFull : limits.maxCollected ≤ (ledger.visit path).total := by
        rw [total, same]
        exact full
      exact (ih stillFull keeps.2).trans same
    | forget => exact absurd keeps.1 (by decide)

end Runs

/-- After any calls the ledger keeps no more than the limits allow, and it lists no file without
events. Each file holds the first events that were offered for it since the ledger last forgot,
while there was room over all, and the one marker behind them if there were more. Without room a
call changes what is kept only if it forgets. -/
theorem ledger_of_calls (limits : NoticeLimits) (made : List Call) :
    let ledger := after limits made
    let offered := offers limits .empty (recent made)
    ledger.total ≤ limits.maxCollected ∧
    (∀ file ∈ ledger.files, file.events ≠ [] ∧ file.events.length ≤ limits.maxPerFile + 1 ∧
      ledger.eventsOf file.path = file.events) ∧
    (∀ path, ledger.eventsOf path =
      (offersAt (Path.parts path) offered).take limits.maxPerFile ++
        if limits.maxPerFile < (offersAt (Path.parts path) offered).length then [marker limits]
        else []) ∧
    (limits.maxCollected ≤ ledger.total →
      (∀ path event, ledger.record limits path event = ledger) ∧
      ∀ more, (∀ call ∈ more, call.isForget = false) →
        (after limits (made ++ more)).files = ledger.files) := by
  intro ledger offered
  have holds : Holds limits offered ledger.files := after_holds limits made
  refine ⟨holds.total, fun file member => ?_, fun path => ?_, fun full =>
    ⟨?_, fun more keeps => ?_⟩⟩
  · have own : eventsAt file.key ledger.files = file.events :=
      eventsAt_of_mem holds.sorted.keys_nodup member
    refine ⟨holds.filled file member, ?_, (eventsOf_eq ledger file.path).trans own⟩
    rw [← own, holds.events]
    exact length_filed_le limits _
  · rw [eventsOf_eq, holds.events, filed]
  · exact record_of_full full
  · rw [after, calls_append]
    exact files_of_full full keeps

/-- One file has its event and its marker, and with them there is no room for another file. -/
theorem ledger_of_calls_marked :
    let limits : NoticeLimits := ⟨2, 64, 1, 2⟩
    let first := Event.warning .plainWarning "first"
    let made := [Call.record "a//b" first, .record "a/b" (.warning .plainWarning "second")]
    let file : FileEvents := ⟨"a//b", [first, marker limits]⟩
    (after limits made).files = [file] ∧ (after limits made).eventsOf file.path = file.events ∧
      limits.maxCollected ≤ (after limits made).total ∧
      (after limits (made ++ [.record "c" first, .visit "c"])).files = [file] := by
  intro limits first made file
  have held : (after limits made).files = [file] := by
    simp only [limits, made, file, first]
    rfl
  have full : limits.maxCollected ≤ (after limits made).total := by
    rw [total, held]
    exact Nat.le_refl 2
  have applied := ledger_of_calls limits made
  refine ⟨held, (applied.2.1 file (by simp [held])).2.2, full, ?_⟩
  rw [(applied.2.2.2 full).2 _ (by simp [Call.isForget]), held]

end LexReport.Notice.Ledger
