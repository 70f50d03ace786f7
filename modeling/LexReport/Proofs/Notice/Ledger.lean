import LexReport.Notice.Journal
import LexReport.Proofs.Files.Path
import Mathlib.Data.List.Induction

/-! What a ledger holds after events were told of one file: the first of them, up to the limits,
and a marker if one more was told. -/

set_option autoImplicit false

namespace LexReport.Notice

open Files

variable {limits : NoticeLimits} {path : String} {offered : List Event} {event : Event}

namespace Ledger

def single (path : String) : List Event → List FileEvents
  | [] => []
  | first :: rest => [⟨path, first :: rest⟩]

/-- What a file keeps of the events that are offered for it. -/
def filed (limits : NoticeLimits) (offered : List Event) : List Event :=
  offered.take limits.maxPerFile ++
    if limits.maxPerFile < offered.length then [marker limits] else []

/-- What is kept of the events that are offered if they are all for one file. -/
def kept (limits : NoticeLimits) (offered : List Event) : List Event :=
  offered.take (min limits.maxPerFile limits.maxCollected) ++
    if limits.maxPerFile < limits.maxCollected ∧ limits.maxPerFile < offered.length then
      [marker limits]
    else []

section Single

theorem total_single (path : String) (events : List Event) (visited : List String) :
    (Ledger.mk (single path events) visited).total = events.length := by
  cases events <;> rfl

theorem update_single (path : String) (change : List Event → List Event) (events : List Event) :
    update path change (single path events) = [⟨path, change events⟩] := by
  cases events with
  | nil => rfl
  | cons first rest => rw [single, update, Path.order_self]

theorem single_of_ne_nil {events : List Event} (filled : events ≠ []) :
    single path events = [⟨path, events⟩] := by
  cases events with
  | nil => contradiction
  | cons first rest => rfl

theorem isSame_self (path : String) : isSame path path = true := by
  rw [isSame, Path.order_self]
  rfl

theorem eventsOf_single (path : String) (events : List Event) (visited : List String) :
    (Ledger.mk (single path events) visited).eventsOf path = events := by
  cases events with
  | nil => rfl
  | cons first rest => simp [eventsOf, single, isSame_self]

theorem countAll_single (count : List Event → Nat) (nothing : count [] = 0) (path : String)
    (events : List Event) : countAll count (single path events) = count events := by
  cases events with
  | nil => exact nothing.symm
  | cons => rfl

theorem failed_single (path : String) (events : List Event) (visited : List String) :
    (Ledger.mk (single path events) visited).totals.failed =
      if countLevel .error events = 0 then 0 else 1 := by
  cases events with
  | nil => rfl
  | cons first rest => simp [totals, single, List.countP_cons]

theorem digest_single (path : String) (events : List Event) (visited : List String) :
    (Ledger.mk (single path events) visited).digest =
      fileLines ⟨path, events⟩ ++
        (if countLevel .error events = 0 then ""
          else "Total errors: " ++ toString (countLevel .error events) ++ "\n") ++
        (if countLevel .warning events = 0 then ""
          else "Total warnings: " ++ toString (countLevel .warning events) ++ "\n") := by
  have lines : String.join ((single path events).map fileLines) = fileLines ⟨path, events⟩ := by
    cases events with
    | nil => rfl
    | cons => exact String.empty_append
  unfold digest totals
  dsimp only
  rw [lines, countAll_single _ rfl, countAll_single _ rfl]

end Single

section Filed

theorem prefix_keep (limits : NoticeLimits) (event : Event) (events : List Event) :
    events <+: keep limits event events := by
  rw [keep]
  split
  · exact List.prefix_append _ _
  · split
    · exact List.prefix_append _ _
    · exact List.prefix_rfl

theorem length_keep_le (limits : NoticeLimits) (event : Event) (events : List Event) :
    (keep limits event events).length ≤ events.length + 1 := by
  rw [keep]
  split
  · simp
  · split <;> simp

theorem length_filed_le (limits : NoticeLimits) (offered : List Event) :
    (filed limits offered).length ≤ limits.maxPerFile + 1 := by
  rw [filed, List.length_append, List.length_take]
  split
  · exact Nat.add_le_add_right (Nat.min_le_left _ _) 1
  · exact Nat.le_succ_of_le (Nat.min_le_left _ _)

theorem filed_of_short (few : offered.length ≤ limits.maxPerFile) :
    filed limits offered = offered := by
  rw [filed, List.take_of_length_le few, if_neg (by omega), List.append_nil]

/-- One more event is kept itself, or stands behind a marker, or is the first that does. -/
theorem keep_filed (limits : NoticeLimits) (offered : List Event) (event : Event) :
    keep limits event (filed limits offered) = filed limits (offered ++ [event]) := by
  have longer : (offered ++ [event]).length = offered.length + 1 := List.length_append
  -- Below the limit the event is kept, at the limit the marker, and past it nothing.
  rcases Nat.lt_trichotomy offered.length limits.maxPerFile with fewer | even | more
  · rw [filed_of_short (by omega), filed_of_short (by omega), keep, if_pos fewer]
  · rw [filed_of_short (by omega), keep, if_neg (by omega), if_pos even, filed,
      List.take_append_of_le_length (by omega), List.take_of_length_le (by omega),
      if_pos (by omega)]
  · have length : (filed limits offered).length = limits.maxPerFile + 1 := by
      rw [filed, if_pos more, List.length_append, List.length_take, Nat.min_eq_left (by omega)]
      rfl
    rw [keep, length, if_neg (by omega), if_neg (by omega), filed, filed, if_pos more,
      if_pos (by omega), List.take_append_of_le_length (by omega)]

end Filed

section Kept

/-- Of what a single file keeps there is no more than fits over all. -/
theorem kept_eq_take (limits : NoticeLimits) (offered : List Event) :
    kept limits offered = (filed limits offered).take limits.maxCollected := by
  rcases Nat.lt_or_ge limits.maxPerFile limits.maxCollected with isMarked | unmarked
  · have fits := Nat.le_trans (length_filed_le limits offered) isMarked
    rw [List.take_of_length_le fits, kept, filed, Nat.min_eq_left (Nat.le_of_lt isMarked)]
    simp only [isMarked, true_and]
  · rw [kept, Nat.min_eq_right unmarked, if_neg (by omega), List.append_nil, filed]
    split
    · rw [List.take_append_of_le_length (by simp; omega), List.take_take, Nat.min_eq_left unmarked]
    · rw [List.append_nil, List.take_take, Nat.min_eq_left unmarked]

theorem kept_of_short (few : offered.length ≤ limits.maxPerFile)
    (room : offered.length ≤ limits.maxCollected) : kept limits offered = offered := by
  rw [kept_eq_take, filed_of_short few, List.take_of_length_le room]

theorem kept_concat (limits : NoticeLimits) (offered : List Event) (event : Event) :
    kept limits (offered ++ [event]) =
      if limits.maxCollected ≤ (kept limits offered).length then kept limits offered
      else keep limits event (kept limits offered) := by
  rw [kept_eq_take, kept_eq_take, ← keep_filed, List.length_take]
  split
  · rename_i full
    obtain ⟨more, longer⟩ := prefix_keep limits event (filed limits offered)
    rw [← longer, List.take_append_of_le_length (Nat.le_min.mp full).2]
  · rename_i room
    have longer := length_keep_le limits event (filed limits offered)
    rw [List.take_of_length_le (by omega), List.take_of_length_le (by omega)]

theorem keep_ne_nil (event : Event) (events : List Event) : keep limits event events ≠ [] := by
  rw [keep]
  split
  · simp
  · split
    · simp
    · rename_i notShort notEven
      rintro rfl
      simp at notShort notEven
      omega

theorem record_kept (offered : List Event) (event : Event) (visited : List String) :
    record limits ⟨single path (kept limits offered), visited⟩ path event =
      ⟨single path (kept limits (offered ++ [event])), visited⟩ := by
  rw [record, total_single, kept_concat]
  split
  · rfl
  · rw [single_of_ne_nil (keep_ne_nil _ _)]
    dsimp only
    rw [update_single]

end Kept

section Shown

/-- A ledger holds some warnings and then some errors, all of one file, and shows them. -/
structure Shows (ledger : Ledger) (path : String) (warnings errors : List Event) : Prop where
  warning : ∀ event ∈ warnings, event.level = .warning
  error : ∀ event ∈ errors, event.level = .error
  events : ledger.eventsOf path = warnings ++ errors
  errorTotal : ledger.totals.errors = errors.length
  warningTotal : ledger.totals.warnings = warnings.length
  failed : ledger.totals.failed = if errors = [] then 0 else 1
  digest : ledger.digest =
    (if warnings ++ errors = [] then ""
      else "Checking " ++ path ++ "...\n" ++ String.join (errors.map (errorLines path)) ++
        String.join (warnings.map (warningLines path)) ++ "\n") ++
      (if errors = [] then "" else "Total errors: " ++ toString errors.length ++ "\n") ++
      (if warnings = [] then "" else "Total warnings: " ++ toString warnings.length ++ "\n")

variable {warnings errors : List Event}

theorem shows_single (path : String) (warning : ∀ event ∈ warnings, event.level = .warning)
    (error : ∀ event ∈ errors, event.level = .error) (visited : List String) :
    Shows ⟨single path (warnings ++ errors), visited⟩ path warnings errors := by
  have allErrors : (warnings ++ errors).filter (·.level == .error) = errors := by
    rw [List.filter_append, List.filter_eq_nil_iff.mpr, List.filter_eq_self.mpr, List.nil_append]
    · simpa using error
    · intro event member
      rw [warning event member]
      decide
  have allWarnings : (warnings ++ errors).filter (·.level == .warning) = warnings := by
    rw [List.filter_append, List.filter_eq_self.mpr, List.filter_eq_nil_iff.mpr, List.append_nil]
    · intro event member
      rw [error event member]
      decide
    · simpa using warning
  have errorTotal : countLevel .error (warnings ++ errors) = errors.length := by
    rw [countLevel, List.countP_eq_length_filter, allErrors]
  have warningTotal : countLevel .warning (warnings ++ errors) = warnings.length := by
    rw [countLevel, List.countP_eq_length_filter, allWarnings]
  refine ⟨warning, error, eventsOf_single _ _ _, ?_, ?_, ?_, ?_⟩
  · exact (countAll_single _ rfl _ _).trans errorTotal
  · exact (countAll_single _ rfl _ _).trans warningTotal
  · rw [failed_single, errorTotal]
    simp only [List.length_eq_zero_iff]
  · rw [digest_single, errorTotal, warningTotal, fileLines, allErrors, allWarnings]
    simp only [List.isEmpty_iff, List.length_eq_zero_iff]

end Shown

end Ledger

section Told

open Ledger

variable {preferences : NoticePreferences} {file : FileScope} {visited : List String}
  {outlet : Outlet}

def problemsOf (limits : NoticeLimits) (preferences : NoticePreferences) (file : FileScope)
    (events : List Event) : List Event :=
  (events.filter Event.isProblem).map (Journal.stamped limits preferences (some file))

theorem problemsOf_append (limits : NoticeLimits) (preferences : NoticePreferences)
    (file : FileScope) (first rest : List Event) :
    problemsOf limits preferences file (first ++ rest) =
      problemsOf limits preferences file first ++ problemsOf limits preferences file rest := by
  rw [problemsOf, List.filter_append, List.map_append]
  rfl

theorem isProblem_stamped (limits : NoticeLimits) (preferences : NoticePreferences)
    (file : FileScope) (event : Event) :
    (Journal.stamped limits preferences (some file) event).isProblem = event.isProblem := by
  rw [Journal.stamped]
  cases preferences.nameFile <;> rfl

theorem level_stamped (limits : NoticeLimits) (preferences : NoticePreferences)
    (file : FileScope) (event : Event) :
    (Journal.stamped limits preferences (some file) event).level = event.level := by
  rw [Journal.stamped]
  cases preferences.nameFile <;> rfl

theorem code_stamped (limits : NoticeLimits) (preferences : NoticePreferences)
    (file : FileScope) (event : Event) :
    (Journal.stamped limits preferences (some file) event).code = event.code := by
  rw [Journal.stamped]
  cases preferences.nameFile <;> rfl

theorem problemsOf_warnings {events : List Event} (quiet : ∀ event ∈ events, event.level ≠ .error) :
    ∀ event ∈ problemsOf limits preferences file events, event.level = .warning := by
  intro stamped member
  obtain ⟨event, isProblem, rfl⟩ := List.mem_map.mp member
  obtain ⟨told, problem⟩ := List.mem_filter.mp isProblem
  rw [level_stamped]
  simp only [Event.isProblem, Bool.or_eq_true, beq_iff_eq] at problem
  exact problem.resolve_left (quiet event told)

theorem tell_kept (offered : List Event) (event : Event) :
    (Journal.mk preferences (some file) ⟨single file.path (kept limits offered), visited⟩
        outlet).tell limits event =
      ⟨preferences, some file,
        ⟨single file.path (kept limits (offered ++ problemsOf limits preferences file [event])),
          visited⟩,
        outlet.log limits (Journal.stamped limits preferences (some file) event)⟩ := by
  rw [Journal.tell, Journal.collect, isProblem_stamped, problemsOf]
  cases problem : event.isProblem with
  | true =>
    rw [if_pos rfl, record_kept, List.filter_cons_of_pos problem]
    rfl
  | false =>
    rw [if_neg (by decide), List.filter_cons_of_neg (by simp [problem])]
    simp

theorem tellAll_kept (offered events : List Event) :
    ((Journal.mk preferences (some file) ⟨single file.path (kept limits offered), visited⟩
        outlet).tellAll limits events).ledger =
      ⟨single file.path (kept limits (offered ++ problemsOf limits preferences file events)),
        visited⟩ := by
  induction events generalizing offered outlet with
  | nil =>
    rw [problemsOf, List.filter_nil, List.map_nil, List.append_nil]
    rfl
  | cons event rest ih =>
    rw [Journal.tellAll, List.foldl_cons, tell_kept]
    refine (ih (offered ++ problemsOf limits preferences file [event])).trans ?_
    rw [List.append_assoc, ← problemsOf_append, List.singleton_append]

theorem ledger_of_tellAll (events : List Event) :
    ((Journal.mk preferences (some file) ⟨[], visited⟩ outlet).tellAll limits events).ledger =
      ⟨single file.path (kept limits (problemsOf limits preferences file events)), visited⟩ := by
  have nothing : kept limits [] = [] := kept_of_short (Nat.zero_le _) (Nat.zero_le _)
  have told (start : Ledger) (same : start = ⟨single file.path (kept limits []), visited⟩) :
      ((Journal.mk preferences (some file) start outlet).tellAll limits events).ledger =
        ⟨single file.path (kept limits (problemsOf limits preferences file events)), visited⟩ := by
    rw [same, tellAll_kept, List.nil_append]
  exact told _ (by rw [nothing]; rfl)

end Told

end LexReport.Notice
