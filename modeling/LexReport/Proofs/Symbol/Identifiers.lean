import LexReport.Symbol.Identifiers
import Mathlib.Data.List.Basic

/-! The index of the identifiers names the places of their records, and names are kept in the
order in which they are first offered. -/

set_option autoImplicit false

namespace LexReport.Symbol.Identifiers

/-- The index leads from each name to its record, and to nothing else. -/
def Indexed (identifiers : Identifiers) : Prop :=
  ∀ (name : String) (place : Nat),
    identifiers.index[name]? = some place ↔ identifiers.names[place]? = some name

def note (names : List String) (name : String) : List String :=
  if name ∈ names then names else names ++ [name]

theorem length_le_note (names : List String) (name : String) :
    names.length ≤ (note names name).length := by
  unfold note
  split
  · exact Nat.le_refl _
  · simp

theorem indexed_empty : Indexed empty := by
  intro name place
  simp [empty, names]

section Offered

variable {identifiers : Identifiers}

theorem size_eq_length (identifiers : Identifiers) :
    identifiers.records.size = identifiers.names.length := by
  simp [names]

theorem Indexed.contains_iff (indexed : Indexed identifiers) (name : String) :
    identifiers.index.contains name = true ↔ name ∈ identifiers.names := by
  rw [Std.HashMap.contains_eq_isSome_getElem?, Option.isSome_iff_exists, List.mem_iff_getElem?]
  exact exists_congr fun place => indexed name place

theorem names_push (records : Array IdentifierRecord) (index : Std.HashMap String Nat)
    (name : String) (line : UInt32) :
    names ⟨records.push (.seen name line), index⟩ = names ⟨records, index⟩ ++ [name] := by
  simp [names, IdentifierRecord.seen]

theorem Indexed.push (indexed : Indexed identifiers) {name : String}
    (isNew : name ∉ identifiers.names) (line : UInt32) :
    Indexed ⟨identifiers.records.push (.seen name line),
      identifiers.index.insert name identifiers.records.size⟩ := by
  intro other place
  have size := size_eq_length identifiers
  have appended : (identifiers.names ++ [name])[place]? = some other ↔
      identifiers.names[place]? = some other ∨ place = identifiers.names.length ∧ name = other := by
    rw [List.getElem?_append]
    split
    · rename_i bound
      simp [Nat.ne_of_lt bound]
    · rename_i bound
      rw [List.getElem?_eq_none (Nat.le_of_not_lt bound), List.getElem?_singleton]
      have last : place - identifiers.names.length = 0 ↔ place = identifiers.names.length := by
        omega
      simp [last]
  have pushed : names ⟨identifiers.records.push (.seen name line),
      identifiers.index.insert name identifiers.records.size⟩ = identifiers.names ++ [name] :=
    names_push _ _ _ _
  -- The new name leads to the new record, and every other name still to its own.
  rw [pushed, appended, ← indexed other place, Std.HashMap.getElem?_insert]
  by_cases same : name = other
  · subst same
    have absent : identifiers.index[name]? ≠ some place :=
      fun held => isNew (List.mem_of_getElem? ((indexed name place).mp held))
    simp [absent, size, eq_comm]
  · simp [same]

theorem insert_cases (indexed : Indexed identifiers) (limits : SymbolLimits) (name : String)
    (line : UInt32) :
    (name ∈ identifiers.names ∧
      identifiers.insert limits name line = (.ok false, identifiers)) ∨
    (name ∉ identifiers.names ∧ limits.maxPlainIdentifiers ≤ identifiers.size ∧
      identifiers.insert limits name line = (.error (.identifiersFull name), identifiers)) ∨
    (name ∉ identifiers.names ∧ identifiers.size < limits.maxPlainIdentifiers ∧
      identifiers.insert limits name line =
        (.ok true, ⟨identifiers.records.push (.seen name line),
          identifiers.index.insert name identifiers.records.size⟩)) := by
  have known := indexed.contains_iff name
  by_cases held : name ∈ identifiers.names
  · exact .inl ⟨held, if_pos (known.mpr held)⟩
  · have absent : ¬ identifiers.index.contains name = true := fun has => held (known.mp has)
    by_cases full : limits.maxPlainIdentifiers ≤ identifiers.size
    · exact .inr (.inl ⟨held, full, (if_neg absent).trans (if_pos full)⟩)
    · exact .inr (.inr ⟨held, Nat.lt_of_not_le full, (if_neg absent).trans (if_neg full)⟩)

/-- What offering a name does: a known name changes nothing, a new one is put last while there is
room, and fails otherwise. -/
theorem insert_spec (indexed : Indexed identifiers) (limits : SymbolLimits) (name : String)
    (line : UInt32) :
    if name ∈ identifiers.names then
      identifiers.insert limits name line = (.ok false, identifiers)
    else if limits.maxPlainIdentifiers ≤ identifiers.names.length then
      identifiers.insert limits name line = (.error (.identifiersFull name), identifiers)
    else
      ∃ after, identifiers.insert limits name line = (.ok true, after) ∧ Indexed after ∧
        after.names = identifiers.names ++ [name] := by
  have size : identifiers.size = identifiers.names.length := size_eq_length identifiers
  rw [← size]
  rcases insert_cases indexed limits name line with ⟨held, made⟩ | ⟨isNew, full, made⟩ |
    ⟨isNew, room, made⟩
  · rwa [if_pos held]
  · rwa [if_neg isNew, if_pos full]
  · rw [if_neg isNew, if_neg (Nat.not_le_of_lt room)]
    exact ⟨_, made, indexed.push isNew line, names_push _ _ name line⟩

theorem insert_ok (indexed : Indexed identifiers) (limits : SymbolLimits) (name : String)
    (line : UInt32)
    (room : (note identifiers.names name).length ≤ limits.maxPlainIdentifiers) :
    ∃ isNew after, identifiers.insert limits name line = (.ok isNew, after) := by
  have spec := insert_spec indexed limits name line
  unfold note at room
  split at spec
  · exact ⟨false, identifiers, spec⟩
  · rename_i isNew
    rw [if_neg isNew, List.length_append, List.length_singleton] at room
    rw [if_neg (by omega)] at spec
    obtain ⟨after, inserted, -⟩ := spec
    exact ⟨true, after, inserted⟩

theorem names_of_insert (indexed : Indexed identifiers) {limits : SymbolLimits} {name : String}
    {line : UInt32} {isNew : Bool} {after : Identifiers}
    (inserted : identifiers.insert limits name line = (.ok isNew, after)) :
    Indexed after ∧ after.names = note identifiers.names name ∧
      (identifiers.names.length ≤ limits.maxPlainIdentifiers →
        after.names.length ≤ limits.maxPlainIdentifiers) := by
  have spec := insert_spec indexed limits name line
  unfold note
  split at spec
  · rename_i member
    rw [inserted, Prod.mk.injEq] at spec
    obtain ⟨-, rfl⟩ := spec
    rw [if_pos member]
    exact ⟨indexed, rfl, id⟩
  · rename_i absent
    rw [if_neg absent]
    split at spec
    · rw [inserted, Prod.mk.injEq] at spec
      obtain ⟨impossible, -⟩ := spec
      contradiction
    · rename_i room
      obtain ⟨other, others, further, names⟩ := spec
      rw [inserted, Prod.mk.injEq] at others
      obtain ⟨-, rfl⟩ := others
      refine ⟨further, names, fun _ => ?_⟩
      rw [names, List.length_append, List.length_singleton]
      omega

end Offered

end LexReport.Symbol.Identifiers
