import LexReport.Notice.Ledger
import LexReport.Proofs.Files.Path
import Mathlib.Data.List.Nodup

/-! The files of a ledger stand in the order of their paths. An update keeps them so; it changes the
events of one file and leaves those of the others. -/

set_option autoImplicit false

namespace LexReport.Notice

open Files

def FileEvents.key (file : FileEvents) : List Part := Path.parts file.path

namespace Ledger

def eventsAt (key : List Part) : List FileEvents → List Event
  | [] => []
  | file :: rest => if key = file.key then file.events else eventsAt key rest

def Sorted (files : List FileEvents) : Prop :=
  files.Pairwise fun first second => Path.order first.path second.path = .lt

variable {files rest : List FileEvents} {file : FileEvents} {path : String} {key : List Part}
  {change : List Event → List Event}

section Keys

theorem isSame_iff {first second : String} :
    isSame first second = true ↔ Path.parts first = Path.parts second := by
  rw [isSame, beq_iff_eq, Path.order_eq_iff]

theorem eventsOf_eq (ledger : Ledger) (path : String) :
    ledger.eventsOf path = eventsAt (Path.parts path) ledger.files := by
  rw [eventsOf]
  induction ledger.files with
  | nil => rfl
  | cons file rest ih =>
    rw [List.find?_cons, eventsAt]
    cases same : isSame path file.path with
    | true => exact (if_pos (isSame_iff.mp same)).symm
    | false =>
      have other : Path.parts path ≠ file.key := fun alike => by
        rw [isSame_iff.mpr alike] at same
        contradiction
      rw [if_neg other, ← ih]

theorem not_mem_keys (before : ∀ file ∈ files, Path.order path file.path = .lt) :
    Path.parts path ∉ files.map FileEvents.key := by
  intro known
  obtain ⟨file, member, same⟩ := List.mem_map.mp known
  have alike := before file member
  rw [Path.order_eq_iff.mpr same.symm] at alike
  contradiction

theorem Sorted.keys_nodup (sorted : Sorted files) : (files.map FileEvents.key).Nodup := by
  induction files with
  | nil => exact List.nodup_nil
  | cons first rest ih =>
    obtain ⟨before, sorted⟩ := List.pairwise_cons.mp sorted
    exact List.nodup_cons.mpr ⟨not_mem_keys before, ih sorted⟩

theorem eventsAt_eq_nil (unknown : key ∉ files.map FileEvents.key) : eventsAt key files = [] := by
  induction files with
  | nil => rfl
  | cons file rest ih =>
    rw [List.map_cons, List.mem_cons, not_or] at unknown
    rw [eventsAt, if_neg unknown.1, ih unknown.2]

theorem eventsAt_of_mem (distinct : (files.map FileEvents.key).Nodup) (member : file ∈ files) :
    eventsAt file.key files = file.events := by
  induction files with
  | nil => contradiction
  | cons first rest ih =>
    rw [List.map_cons, List.nodup_cons] at distinct
    rcases List.mem_cons.mp member with rfl | later
    · rw [eventsAt, if_pos rfl]
    · have other : file.key ≠ first.key := fun same =>
        distinct.1 (same ▸ List.mem_map_of_mem later)
      rw [eventsAt, if_neg other, ih distinct.2 later]

theorem eventsAt_ne_nil_iff (distinct : (files.map FileEvents.key).Nodup)
    (filled : ∀ file ∈ files, file.events ≠ []) :
    eventsAt key files ≠ [] ↔ key ∈ files.map FileEvents.key := by
  constructor
  · intro something
    by_contra unknown
    exact something (eventsAt_eq_nil unknown)
  · intro known
    obtain ⟨file, member, rfl⟩ := List.mem_map.mp known
    rw [eventsAt_of_mem distinct member]
    exact filled file member

end Keys

section Update

theorem ahead_of_first (here : Path.order path file.path = .lt)
    (before : ∀ later ∈ rest, Path.order file.path later.path = .lt) :
    ∀ later ∈ file :: rest, Path.order path later.path = .lt :=
  List.forall_mem_cons.mpr
    ⟨here, fun later member => Std.TransCmp.lt_trans here (before later member)⟩

theorem forall_update (holds : FileEvents → Prop) (new : holds ⟨path, change []⟩)
    (changed : ∀ file ∈ files, holds file → holds ⟨file.path, change file.events⟩)
    (all : ∀ file ∈ files, holds file) : ∀ file ∈ update path change files, holds file := by
  induction files with
  | nil => simpa [update] using new
  | cons first rest ih =>
    rw [List.forall_mem_cons] at all changed
    rw [update]
    split
    · exact List.forall_mem_cons.mpr ⟨new, List.forall_mem_cons.mpr all⟩
    · exact List.forall_mem_cons.mpr ⟨changed.1 all.1, all.2⟩
    · exact List.forall_mem_cons.mpr ⟨all.1, ih changed.2 all.2⟩

theorem Sorted.update (sorted : Sorted files) (path : String)
    (change : List Event → List Event) : Sorted (update path change files) := by
  induction files with
  | nil => exact List.pairwise_singleton _ _
  | cons first rest ih =>
    obtain ⟨before, sorted⟩ := List.pairwise_cons.mp sorted
    rw [Ledger.update]
    split
    · rename_i here
      exact List.pairwise_cons.mpr
        ⟨ahead_of_first here before, List.pairwise_cons.mpr ⟨before, sorted⟩⟩
    · exact List.pairwise_cons.mpr ⟨before, sorted⟩
    · rename_i behind
      refine List.pairwise_cons.mpr ⟨?_, ih sorted⟩
      exact forall_update (fun file => Path.order first.path file.path = .lt)
        (Std.OrientedCmp.gt_iff_lt.mp behind) (fun _ _ here => here) before

theorem eventsAt_update (sorted : Sorted files) (path : String)
    (change : List Event → List Event) (key : List Part) :
    eventsAt key (update path change files) =
      if key = Path.parts path then change (eventsAt key files) else eventsAt key files := by
  induction files with
  | nil => rfl
  | cons first rest ih =>
    obtain ⟨before, sorted⟩ := List.pairwise_cons.mp sorted
    rw [update]
    split
    · -- The path comes before all of the files, so nothing was kept under its key.
      rename_i here
      by_cases same : key = Path.parts path
      · rw [if_pos same, same, eventsAt_eq_nil (not_mem_keys (ahead_of_first here before)),
          eventsAt]
        exact if_pos rfl
      · rw [if_neg same, eventsAt]
        exact if_neg same
    · rename_i here
      have firstKey : first.key = Path.parts path := (Path.order_eq_iff.mp here).symm
      rw [eventsAt, eventsAt]
      by_cases same : key = Path.parts path
      · rw [if_pos same, if_pos (same.trans firstKey.symm)]
        exact if_pos (same.trans firstKey.symm)
      · have other : key ≠ first.key := fun alike => same (alike.trans firstKey)
        rw [if_neg same, if_neg other]
        exact if_neg other
    -- The path comes behind the first file, which is another one.
    · rename_i behind
      rw [eventsAt, eventsAt, ih sorted]
      by_cases atFirst : key = first.key
      · have other : key ≠ Path.parts path := by
          rintro rfl
          rw [Path.order_eq_iff.mpr atFirst] at behind
          contradiction
        rw [if_pos atFirst, if_pos atFirst, if_neg other]
      · rw [if_neg atFirst, if_neg atFirst]

end Update

end Ledger

end LexReport.Notice
