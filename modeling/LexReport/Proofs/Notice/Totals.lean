import LexReport.Proofs.Notice.Calls
import Mathlib.Algebra.BigOperators.Group.Finset.Basic
import Mathlib.Data.ENat.Lattice
import Mathlib.Data.Set.Card

/-! What the totals of a ledger count. Errors, warnings and the files that have them are counted
path by path. The number of files is the larger of two, of the files that were worked on and of
those with events; it is that of all of them only if one kind has all files of the other. -/

set_option autoImplicit false

namespace LexReport.Notice.Ledger

open Files

noncomputable def distinct (meets : String → Prop) : ℕ∞ :=
  (Path.parts '' {path | meets path}).encard

/-- The paths that meet a condition, each in one spelling. -/
structure Lists (paths : List String) (meets : String → Prop) : Prop where
  apart : (paths.map Path.parts).Nodup
  all : ∀ path, meets path ↔ Path.parts path ∈ paths.map Path.parts

/-- The file at a path was worked on since the ledger last forgot. -/
def WorkedOn (made : List Call) (path : String) : Prop :=
  ∃ other, Call.visit other ∈ recent made ∧ Path.parts other = Path.parts path

def Has (ledger : Ledger) (level : Level) (path : String) : Prop :=
  ∃ event ∈ ledger.eventsOf path, event.level = level

variable {limits : NoticeLimits} {ledger : Ledger} {made : List Call} {meets others : String → Prop}
  {paths more : List String} {files : List FileEvents}

section Listed

theorem Lists.keys_eq (lists : Lists paths meets) :
    Path.parts '' {path | meets path} = {key | key ∈ paths.map Path.parts} := by
  ext key
  constructor
  · rintro ⟨path, holds, rfl⟩
    exact (lists.all path).mp holds
  · intro listed
    obtain ⟨path, -, rfl⟩ := List.mem_map.mp listed
    exact ⟨path, (lists.all path).mpr listed, rfl⟩

theorem Lists.distinct_eq (lists : Lists paths meets) : distinct meets = paths.length := by
  have same : {key | key ∈ paths.map Path.parts} = ((paths.map Path.parts).toFinset : Set _) := by
    ext key
    rw [Finset.mem_coe, List.mem_toFinset, Set.mem_ofPred_eq]
  rw [distinct, lists.keys_eq, same, Set.encard_coe_eq_coe_finsetCard,
    List.toFinset_card_of_nodup lists.apart, List.length_map]

theorem Lists.keys_subset_iff (rest : Lists more others) :
    Path.parts '' {path | meets path} ⊆ Path.parts '' {path | others path} ↔
      ∀ path, meets path → others path := by
  constructor
  · intro within path holds
    rw [rest.keys_eq] at within
    exact (rest.all path).mpr (within ⟨path, holds, rfl⟩)
  · intro within
    exact Set.image_mono within

theorem union_encard_eq_max_iff {α : Type} {first second : Set α} (finite : first.Finite)
    (other : second.Finite) :
    (first ∪ second).encard = max first.encard second.encard ↔ first ⊆ second ∨ second ⊆ first := by
  constructor
  · intro same
    rcases max_choice first.encard second.encard with larger | larger
    · have all : first = first ∪ second := finite.eq_of_subset_of_encard_le
        Set.subset_union_left (same.trans larger).le
      exact .inr (all ▸ Set.subset_union_right)
    · have all : second = first ∪ second := other.eq_of_subset_of_encard_le
        Set.subset_union_right (same.trans larger).le
      exact .inl (all ▸ Set.subset_union_left)
  · rintro (within | within)
    · rw [Set.union_eq_self_of_subset_left within, max_eq_right (Set.encard_le_encard within)]
    · rw [Set.union_eq_self_of_subset_right within, max_eq_left (Set.encard_le_encard within)]

/-- The larger of two numbers counts both kinds of paths only if one kind has all of the other. -/
theorem Lists.distinct_or_iff (lists : Lists paths meets) (rest : Lists more others) :
    distinct (fun path => meets path ∨ others path) = max (distinct meets) (distinct others) ↔
      (∀ path, meets path → others path) ∨ ∀ path, others path → meets path := by
  have finite : (Path.parts '' {path | meets path}).Finite := by
    rw [lists.keys_eq]
    exact List.finite_toSet _
  have other : (Path.parts '' {path | others path}).Finite := by
    rw [rest.keys_eq]
    exact List.finite_toSet _
  rw [← rest.keys_subset_iff, ← lists.keys_subset_iff,
    ← union_encard_eq_max_iff finite other, ← Set.image_union]
  rfl

end Listed

section Kept

theorem lists_eventsOf (different : (ledger.files.map FileEvents.key).Nodup)
    (kind : List Event → Bool) (nothing : kind [] = false) :
    Lists ((ledger.files.filter fun file => kind file.events).map FileEvents.path)
      fun path => kind (ledger.eventsOf path) = true := by
  have keys : ((ledger.files.filter fun file => kind file.events).map FileEvents.path).map
      Path.parts = (ledger.files.filter fun file => kind file.events).map FileEvents.key :=
    List.map_map
  refine ⟨?_, fun path => ?_⟩
  · rw [keys]
    exact different.sublist (List.filter_sublist.map _)
  · rw [keys, eventsOf_eq]
    constructor
    · intro ofKind
      have known : Path.parts path ∈ ledger.files.map FileEvents.key := by
        by_contra unknown
        rw [eventsAt_eq_nil unknown, nothing] at ofKind
        contradiction
      obtain ⟨file, member, same⟩ := List.mem_map.mp known
      rw [← same, eventsAt_of_mem different member] at ofKind
      exact List.mem_map.mpr ⟨file, List.mem_filter.mpr ⟨member, ofKind⟩, same⟩
    · intro listed
      obtain ⟨file, member, same⟩ := List.mem_map.mp listed
      obtain ⟨member, ofKind⟩ := List.mem_filter.mp member
      rwa [← same, eventsAt_of_mem different member]

theorem countP_files (different : (ledger.files.map FileEvents.key).Nodup)
    (kind : List Event → Bool) (nothing : kind [] = false) :
    (ledger.files.countP fun file => kind file.events : ℕ∞) =
      distinct fun path => kind (ledger.eventsOf path) = true := by
  rw [(lists_eventsOf different kind nothing).distinct_eq, List.length_map,
    List.countP_eq_length_filter]

theorem lists_kept (limits : NoticeLimits) (made : List Call) :
    Lists ((after limits made).files.map FileEvents.path)
      fun path => (after limits made).eventsOf path ≠ [] := by
  have holds := after_holds limits made
  have keys : ((after limits made).files.map FileEvents.path).map Path.parts =
      (after limits made).files.map FileEvents.key := List.map_map
  refine ⟨keys ▸ holds.sorted.keys_nodup, fun path => ?_⟩
  rw [keys, eventsOf_eq]
  exact eventsAt_ne_nil_iff holds.sorted.keys_nodup holds.filled

theorem countLevel_ne_zero_iff (level : Level) (path : String) :
    (countLevel level (ledger.eventsOf path) != 0) = true ↔ ledger.Has level path := by
  simp [countLevel, Has]

end Kept

section Summed

theorem countAll_eq_sum (count : List Event → Nat) (different : (files.map FileEvents.key).Nodup) :
    countAll count files =
      ∑ key ∈ (files.map FileEvents.key).toFinset, count (eventsAt key files) := by
  have listed : countAll count files = (files.map fun file => count file.events).sum := by
    induction files with
    | nil => rfl
    | cons first rest ih =>
      rw [countAll, ih (List.nodup_cons.mp different).2, List.map_cons, List.sum_cons]
  rw [listed, List.sum_toFinset _ different, List.map_map]
  refine congrArg List.sum (List.map_congr_left fun file member => ?_)
  rw [Function.comp_apply, eventsAt_of_mem different member]

/-- A count over all files is the sum over any paths that leave out no file. -/
theorem countAll_eq_sum_of_paths (count : List Event → Nat) (nothing : count [] = 0)
    (different : (ledger.files.map FileEvents.key).Nodup)
    (filled : ∀ file ∈ ledger.files, file.events ≠ [])
    (apart : (paths.map Path.parts).Nodup)
    (all : ∀ path, ledger.eventsOf path ≠ [] → Path.parts path ∈ paths.map Path.parts) :
    countAll count ledger.files = (paths.map fun path => count (ledger.eventsOf path)).sum := by
  simp only [eventsOf_eq] at all ⊢
  have summed : (paths.map fun path => count (eventsAt (Path.parts path) ledger.files)).sum =
      ∑ key ∈ (paths.map Path.parts).toFinset, count (eventsAt key ledger.files) := by
    rw [List.sum_toFinset _ apart, List.map_map]
    rfl
  -- Both are sums over keys; a key that no file has keeps nothing and adds nothing.
  rw [countAll_eq_sum count different, summed]
  refine Finset.sum_subset (fun key known => ?_) fun key _ unknown => ?_
  · rw [List.mem_toFinset] at known ⊢
    obtain ⟨file, -, rfl⟩ := List.mem_map.mp known
    exact all file.path ((eventsAt_ne_nil_iff different filled).mpr known)
  · rw [eventsAt_eq_nil fun known => unknown (List.mem_toFinset.mpr known), nothing]

end Summed

section Visited

theorem workedOn_record {path other : String} {event : Event} :
    WorkedOn (made ++ [.record other event]) path ↔ WorkedOn made path := by
  simp [WorkedOn, recent_concat (.record other event) rfl]

theorem workedOn_visit {path other : String} :
    WorkedOn (made ++ [.visit other]) path ↔
      WorkedOn made path ∨ Path.parts other = Path.parts path := by
  simp only [WorkedOn, recent_concat (.visit other) rfl, List.mem_append,
    List.mem_singleton, Call.visit.injEq, or_and_right, exists_or, exists_eq_left]

theorem not_workedOn_forget {path : String} : ¬WorkedOn (made ++ [.forget]) path := by
  simp [WorkedOn, recent_forget]

theorem any_isSame_iff {visited : List String} {path : String} :
    visited.any (isSame path) = true ↔ Path.parts path ∈ visited.map Path.parts := by
  simp only [List.any_eq_true, isSame_iff, List.mem_map, eq_comm (a := Path.parts path)]

theorem lists_visit (lists : Lists ledger.visited (WorkedOn made)) (path : String) :
    Lists (ledger.visit path).visited (WorkedOn (made ++ [.visit path])) := by
  rw [Ledger.visit]
  split
  · -- Another spelling of the path is listed, so the path counts as listed already.
    rename_i known
    rw [any_isSame_iff] at known
    refine ⟨lists.apart, fun other => ?_⟩
    rw [workedOn_visit, lists.all, or_iff_left_of_imp fun same => same ▸ known]
  · rename_i fresh
    rw [any_isSame_iff] at fresh
    refine ⟨List.nodup_cons.mpr ⟨fresh, lists.apart⟩, fun other => ?_⟩
    rw [workedOn_visit, lists.all, List.map_cons, List.mem_cons, or_comm,
      eq_comm (a := Path.parts path)]

theorem visited_record (ledger : Ledger) (path : String) (event : Event) :
    (ledger.record limits path event).visited = ledger.visited := by
  rw [record]
  split <;> rfl

theorem lists_empty (nothing : ∀ path, ¬meets path) : Lists Ledger.empty.visited meets where
  apart := List.nodup_nil
  all path := iff_of_false (nothing path) List.not_mem_nil

theorem lists_visited (limits : NoticeLimits) (made : List Call) :
    Lists (after limits made).visited (WorkedOn made) := by
  induction made using List.reverseRecOn with
  | nil => exact lists_empty fun path => by simp [WorkedOn, recent]
  | append_singleton made call ih =>
    rw [after_concat]
    cases call with
    | record path event =>
      have same : ((after limits made).call limits (.record path event)).visited =
          (after limits made).visited := visited_record _ path event
      rw [same]
      exact ⟨ih.apart, fun other => workedOn_record.trans (ih.all other)⟩
    | visit path => exact lists_visit ih path
    | forget => exact lists_empty fun _ => not_workedOn_forget

end Visited

/-- The totals count what was recorded since the ledger last forgot. Files with an error, files with
a warning and no error, errors and warnings are counted path by path. The number of files is the
larger of two, of the files that were worked on and of those with events. That is the number of all
of them only if all files of one kind are of the other. -/
theorem totals_of_calls (limits : NoticeLimits) (made : List Call) :
    let ledger := after limits made
    let kept := fun path => ledger.eventsOf path ≠ []
    after limits (recent made) = ledger ∧
    (ledger.totals.files : ℕ∞) = max (distinct (WorkedOn made)) (distinct kept) ∧
    (distinct (fun path => WorkedOn made path ∨ kept path) = ledger.totals.files ↔
      (∀ path, WorkedOn made path → kept path) ∨ ∀ path, kept path → WorkedOn made path) ∧
    (ledger.totals.failed : ℕ∞) = distinct (ledger.Has .error) ∧
    (ledger.totals.withWarnings : ℕ∞) =
      distinct (fun path => ledger.Has .warning path ∧ ¬ledger.Has .error path) ∧
    (∃ paths, Lists paths kept) ∧
    ∀ paths : List String, (paths.map Path.parts).Nodup →
      (∀ path, kept path → Path.parts path ∈ paths.map Path.parts) →
      ledger.totals.errors = (paths.map ledger.errorCount).sum ∧
      ledger.totals.warnings = (paths.map ledger.warningCount).sum := by
  intro ledger kept
  have holds := after_holds limits made
  have different : (ledger.files.map FileEvents.key).Nodup := holds.sorted.keys_nodup
  -- Each kind of path has a list without repetition, which makes a cardinal number its length.
  have visited : Lists ledger.visited (WorkedOn made) := lists_visited limits made
  have listed : Lists (ledger.files.map FileEvents.path) kept := lists_kept limits made
  have larger : (ledger.totals.files : ℕ∞) = max (distinct (WorkedOn made)) (distinct kept) := by
    rw [visited.distinct_eq, listed.distinct_eq, List.length_map]
    exact Nat.mono_cast.map_max
  refine ⟨after_recent limits made, larger, ?_, ?_, ?_, ⟨_, listed⟩, fun paths apart all =>
    ⟨?_, ?_⟩⟩
  · rw [larger]
    exact visited.distinct_or_iff listed
  · have failed := countP_files different (fun events => countLevel .error events != 0) rfl
    simp only [countLevel_ne_zero_iff] at failed
    exact failed
  · have warned := countP_files different
      (fun events => countLevel .error events == 0 && countLevel .warning events != 0) rfl
    have kind : ∀ path, (countLevel .error (ledger.eventsOf path) == 0 &&
        countLevel .warning (ledger.eventsOf path) != 0) = true ↔
          ledger.Has .warning path ∧ ¬ledger.Has .error path := fun path => by
      rw [Bool.and_eq_true, countLevel_ne_zero_iff, ← countLevel_ne_zero_iff .error]
      simp [and_comm]
    simp only [kind] at warned
    exact warned
  · exact countAll_eq_sum_of_paths _ rfl different holds.filled apart all
  · exact countAll_eq_sum_of_paths _ rfl different holds.filled apart all

/-- Two files, one with an error and one with a warning, and the sums over both. -/
theorem totals_of_calls_apart :
    let limits := Limits.development.notices
    let made := [Call.visit "a.c", .record "a.c" (.error .unmatchedInput "first"),
      .record "b.c" (.warning .plainWarning "second")]
    let ledger := after limits made
    let paths := ["a.c", "b.c"]
    (paths.map Path.parts).Nodup ∧
      (∀ path, ledger.eventsOf path ≠ [] → Path.parts path ∈ paths.map Path.parts) ∧
      ledger.totals.errors = (paths.map ledger.errorCount).sum ∧
      ledger.totals.warnings = (paths.map ledger.warningCount).sum := by
  intro limits made ledger paths
  have held : ledger.files.map FileEvents.path = paths := by
    simp only [limits, made, ledger, paths]
    rfl
  have listed : Lists paths fun path => ledger.eventsOf path ≠ [] := held ▸ lists_kept limits made
  obtain ⟨_, _, _, _, _, _, sums⟩ := totals_of_calls limits made
  have all := fun path => (listed.all path).mp
  exact ⟨listed.apart, all, sums paths listed.apart all⟩

/-- One file was worked on and another has an error: these are two files, and one is counted. -/
theorem files_of_visited_and_kept_apart :
    let made := [Call.visit "a.c", .record "b.c" (.error .unmatchedInput "first")]
    let ledger := after Limits.development.notices made
    ledger.totals.files = 1 ∧
      distinct (fun path => WorkedOn made path ∨ ledger.eventsOf path ≠ []) = 2 := by
  intro made ledger
  have visited : ledger.visited = ["a.c"] := rfl
  have held : ledger.files.map FileEvents.path = ["b.c"] := rfl
  have apart : (["a.c", "b.c"].map Path.parts).Nodup := by decide
  have both : Lists ["a.c", "b.c"] fun path => WorkedOn made path ∨ ledger.eventsOf path ≠ [] := by
    refine ⟨apart, fun path => ?_⟩
    have noted : WorkedOn made path ↔ Path.parts path ∈ ledger.visited.map Path.parts :=
      (lists_visited _ made).all path
    rw [noted, (lists_kept _ made).all, held, visited]
    simp
  exact ⟨rfl, both.distinct_eq⟩

end LexReport.Notice.Ledger
