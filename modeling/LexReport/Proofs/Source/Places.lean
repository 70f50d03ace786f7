import LexReport.Proofs.Source.Lines

/-! The places of a text in which lines and columns can be counted without wrapping: which offsets
have one, what it says, in which order places stand, and how each leads back to its offset. -/

set_option autoImplicit false

namespace LexReport.Source

open Text

section Counting

theorem length_le_byteSize (text : List Char) : text.length ≤ byteSize text := by
  induction text with
  | nil => exact Nat.le_refl 0
  | cons c text ih =>
    have size := c.utf8Size_pos
    rw [List.length_cons, byteSize_cons]
    omega

/-- A place that tells what is before it: how many bytes, in which line, and behind how many
characters of that line. -/
structure Counts (before : List Char) (place : Position) : Prop where
  offset : place.offset = byteSize before
  line : place.line.toNat = 1 + before.count '\n'
  column : place.column.toNat = 1 + (lastLine before).length

theorem counts_after {before : List Char} (short : byteSize before < UInt32.size - 1) :
    Counts before (Position.start.after before) := by
  have length := length_le_byteSize before
  have feeds : before.count '\n' ≤ before.length := List.count_le_length
  have last : (lastLine before).length ≤ before.length :=
    (List.rtakeWhile_suffix _ before).length_le
  rw [Position.after_start]
  refine ⟨rfl, ?_, ?_⟩
  · rw [Nat.add_comm 1]
    exact UInt32.toNat_ofNat_of_lt' (by omega)
  · rw [Nat.add_comm 1]
    exact UInt32.toNat_ofNat_of_lt' (by omega)

def Position.IsBefore (first second : Position) : Prop :=
  first.line < second.line ∨ first.line = second.line ∧ first.column < second.column

theorem Counts.isBefore {before more : List Char} {first second : Position}
    (here : Counts before first) (there : Counts (before ++ more) second) (filled : more ≠ []) :
    first.IsBefore second := by
  have line := there.line
  have column := there.column
  rw [List.count_append] at line
  by_cases feed : '\n' ∈ more
  · left
    have some := List.count_pos_iff.mpr feed
    rw [UInt32.lt_iff_toNat_lt, here.line, line]
    omega
  · right
    have none := List.count_eq_zero.mpr feed
    have length := List.length_pos_iff.mpr filled
    rw [lastLine_append before feed, List.length_append] at column
    rw [← UInt32.toNat_inj, UInt32.lt_iff_toNat_lt, here.line, line, here.column, column]
    omega

end Counting

variable {text : Lines}

theorem longer_of_cuts {source first afterFirst second afterSecond : List Char}
    (cut : source = first ++ afterFirst) (again : source = second ++ afterSecond)
    (smaller : byteSize first < byteSize second) :
    ∃ more, second = first ++ more ∧ more ≠ [] := by
  rcases List.append_eq_append_iff.mp (cut.symm.trans again) with ⟨more, same, -⟩ | ⟨more, same, -⟩
  · refine ⟨more, same, ?_⟩
    rintro rfl
    rw [same, List.append_nil] at smaller
    exact Nat.lt_irrefl _ smaller
  · rw [same, byteSize_append] at smaller
    omega

structure Placed (text : Lines) : Prop where
  /-- An offset has a place just if it lies between two parts of the text. -/
  found_iff : ∀ offset, (∃ place, text.position? offset = some place) ↔
    ∃ before after, text.source = before ++ after ∧ byteSize before = offset
  counts : ∀ before after, text.source = before ++ after →
    ∃ place, text.position? (byteSize before) = some place ∧ Counts before place
  ordered : ∀ offset later first second, text.position? offset = some first →
    text.position? later = some second → offset < later → first.IsBefore second
  /-- A place leads back to its offset: by the start of its line, which has the same line and the
  first column, and by the characters of that line that are before the column. -/
  back : ∀ offset place, text.position? offset = some place →
    ∃ line start, text.line? place.line.toNat = some line ∧
      place.column.toNat - 1 ≤ line.length ∧
      text.position? start = some ⟨start, place.line, 1⟩ ∧
      offset = start + byteSize (line.toList.take (place.column.toNat - 1))

theorem back_of_cut {before after : List Char} (cut : text.source = before ++ after)
    {place : Position} (counts : Counts before place)
    (isPlace : place = Position.start.after before) :
    ∃ line start, text.line? place.line.toNat = some line ∧
      place.column.toNat - 1 ≤ line.length ∧
      text.position? start = some ⟨start, place.line, 1⟩ ∧
      byteSize before = start + byteSize (line.toList.take (place.column.toNat - 1)) := by
  obtain ⟨earlier, later, same, here⟩ := lineOf_cut before after
  rw [← cut] at here
  have column : place.column.toNat - 1 = (lastLine before).length := by
    rw [counts.column]
    omega
  refine ⟨String.ofList (lastLine before ++ firstLine after), byteSize earlier, ?_, ?_, ?_, ?_⟩
  · rw [counts.line, Nat.add_comm]
    exact Lines.line?_cut cut
  · rw [column, String.length_ofList, List.length_append]
    exact Nat.le_add_right _ _
  · rw [Lines.position?_cut here.cut, Position.after_start, here.starts.lastLine, isPlace,
      Position.after_start, count_feed_of_lastLine same]
    rfl
  · rw [column, String.toList_ofList, List.take_left, ← byteSize_append, ← same]

/-- In a text that is short enough, places are told by counting, stand in the order of their offsets
and lead back to them. -/
theorem placed_of_short (text : Lines) (short : byteSize text.source < UInt32.size - 1) :
    Placed text := by
  have counted {before after : List Char} (cut : text.source = before ++ after) :
      Counts before (Position.start.after before) := by
    refine counts_after (lt_of_le_of_lt ?_ short)
    rw [cut, byteSize_append]
    exact Nat.le_add_right _ _
  refine ⟨fun offset => ⟨?_, ?_⟩, ?_, ?_, ?_⟩
  · rintro ⟨place, found⟩
    obtain ⟨before, after, cut, size, -⟩ := Lines.position?_eq_some_iff.mp found
    exact ⟨before, after, cut, size⟩
  · rintro ⟨before, after, cut, rfl⟩
    exact ⟨_, Lines.position?_cut cut⟩
  · intro before after cut
    exact ⟨_, Lines.position?_cut cut, counted cut⟩
  · intro offset later first second found foundLater smaller
    obtain ⟨before, after, cut, rfl, rfl⟩ := Lines.position?_eq_some_iff.mp found
    obtain ⟨longer, rest, again, rfl, rfl⟩ := Lines.position?_eq_some_iff.mp foundLater
    obtain ⟨more, rfl, filled⟩ := longer_of_cuts cut again smaller
    exact (counted cut).isBefore (counted again) filled
  · intro offset place found
    obtain ⟨before, after, cut, rfl, isPlace⟩ := Lines.position?_eq_some_iff.mp found
    exact back_of_cut cut (isPlace ▸ counted cut) isPlace

theorem placed_of_short_two_lines :
    byteSize (Lines.ofText ['é', '\n', 'a', 'é', 'b']).source < UInt32.size - 1 ∧
      Placed (Lines.ofText ['é', '\n', 'a', 'é', 'b']) ∧
      (Lines.ofText ['é', '\n', 'a', 'é', 'b']).position? 6 = some ⟨6, 2, 3⟩ := by
  have short : byteSize (Lines.ofText ['é', '\n', 'a', 'é', 'b']).source < UInt32.size - 1 := by
    decide
  refine ⟨short, placed_of_short _ short, ?_⟩
  have cut : (Lines.ofText ['é', '\n', 'a', 'é', 'b']).source =
      ['é', '\n', 'a', 'é'] ++ ['b'] := rfl
  exact Lines.position?_cut cut

end LexReport.Source
