import LexReport.Proofs.Text.Bytes

/-! A text that is cut to a number of bytes keeps its longest first part within them. The search for
the end of that part goes back byte by byte and is inside of one character until it ends. -/

set_option autoImplicit false

namespace LexReport.Text

structure LongestWithin (limit : Nat) (text kept : String) : Prop where
  leads : ∃ rest, kept ++ rest = text
  within : kept.utf8ByteSize ≤ limit
  longest : ∀ other rest, other ++ rest = text → other.utf8ByteSize ≤ limit →
    other.utf8ByteSize ≤ kept.utf8ByteSize

/-- A search from one place back to another took some steps of one byte. It ends at the first place
that is valid; each place before has a byte to go back by. -/
inductive StepsBack (text : String) : (place steps found : Nat) → Prop where
  | found {place : Nat} : String.Pos.Raw.IsValid text ⟨place⟩ → StepsBack text place 0 place
  | back {place steps found : Nat} : ¬ String.Pos.Raw.IsValid text ⟨place + 1⟩ →
      StepsBack text place steps found → StepsBack text (place + 1) (steps + 1) found

section Boundaries

variable {text : List Char} {place : Nat}

theorem isBoundary_iff :
    isBoundary text place = true ↔ ∃ first rest, text = first ++ rest ∧ byteSize first = place := by
  simp only [isBoundary, Option.isSome_iff_exists, Prod.exists, splitBytes?_eq_some_iff]

/-- The places between two characters are the valid positions of the text as bytes. -/
theorem isBoundary_iff_isValid {text : String} :
    isBoundary text.toList place = true ↔ String.Pos.Raw.IsValid text ⟨place⟩ := by
  rw [isBoundary_iff, String.Pos.Raw.isValid_iff_exists_append]
  constructor
  · rintro ⟨first, rest, cut, size⟩
    refine ⟨String.ofList first, String.ofList rest, ?_, ?_⟩
    · rw [← String.ofList_append, ← cut, String.ofList_toList]
    · rw [← size, ← utf8ByteSize_ofList]
      rfl
  · rintro ⟨first, rest, rfl, size⟩
    refine ⟨first.toList, rest.toList, String.toList_append, ?_⟩
    rw [← utf8ByteSize_ofList, String.ofList_toList]
    exact (congrArg String.Pos.Raw.byteIdx size).symm

theorem isBoundary_zero (text : List Char) : isBoundary text 0 = true :=
  isBoundary_iff.mpr ⟨[], text, rfl, rfl⟩

theorem exists_character_at (inside : place < byteSize text) :
    ∃ first c rest, text = first ++ c :: rest ∧ byteSize first ≤ place ∧
      place < byteSize first + c.utf8Size := by
  induction text generalizing place with
  | nil => exact absurd inside (Nat.not_lt_zero _)
  | cons c text ih =>
    by_cases early : place < c.utf8Size
    · exact ⟨[], c, text, rfl, Nat.zero_le _, by simpa using early⟩
    · rw [byteSize_cons] at inside
      obtain ⟨first, d, rest, rfl, above, below⟩ :=
        ih (show place - c.utf8Size < byteSize text by omega)
      refine ⟨c :: first, d, rest, rfl, ?_, ?_⟩ <;> rw [byteSize_cons] <;> omega

end Boundaries

section Search

variable {text : List Char} {place lower : Nat}

theorem isBoundary_boundaryAtOrBelow (text : List Char) (place : Nat) :
    isBoundary text (boundaryAtOrBelow text place) = true := by
  induction place with
  | zero => exact isBoundary_zero text
  | succ place ih =>
    rw [boundaryAtOrBelow]
    split
    · assumption
    · exact ih

theorem le_boundaryAtOrBelow (between : isBoundary text lower = true) (below : lower ≤ place) :
    lower ≤ boundaryAtOrBelow text place := by
  induction place with
  | zero => exact below
  | succ place ih =>
    rw [boundaryAtOrBelow]
    split
    · exact below
    · -- The search passes a place only if it is inside of a character, and the lower one is not.
      rename_i inside
      have other : lower ≠ place + 1 := fun same => inside (same ▸ between)
      exact ih (by omega)

/-- The search goes back byte by byte, and it never has to go back from the start of the text. -/
theorem stepsBack_boundaryAtOrBelow (text : String) (place : Nat) :
    ∃ steps, StepsBack text place steps (boundaryAtOrBelow text.toList place) ∧
      boundaryAtOrBelow text.toList place + steps = place := by
  induction place with
  | zero => exact ⟨0, .found (isBoundary_iff_isValid.mp (isBoundary_zero _)), rfl⟩
  | succ place ih =>
    rw [boundaryAtOrBelow]
    split
    · rename_i here
      exact ⟨0, .found (isBoundary_iff_isValid.mp here), rfl⟩
    · rename_i inside
      obtain ⟨steps, further, counted⟩ := ih
      exact ⟨steps + 1, .back (mt isBoundary_iff_isValid.mpr inside) further, by omega⟩

theorem le_boundaryAtOrBelow_add_three (inside : place < byteSize text) :
    place ≤ boundaryAtOrBelow text place + 3 := by
  -- The search does not go back behind the start of the character that the place is in.
  obtain ⟨first, c, rest, cut, above, below⟩ := exists_character_at inside
  have start : isBoundary text (byteSize first) = true := isBoundary_iff.mpr ⟨first, _, cut, rfl⟩
  have found : byteSize first ≤ boundaryAtOrBelow text place := le_boundaryAtOrBelow start above
  have bytes : c.utf8Size ≤ 4 := c.utf8Size_le_four
  omega

end Search

section Clipping

variable {limit : Nat} {message : String}

theorem clipped_of_short (short : message.utf8ByteSize ≤ limit) : clipped limit message = message :=
  if_pos short

theorem clipped_of_long (long : limit < message.utf8ByteSize) :
    ∃ kept rest, clipped limit message = kept ++ "..." ∧ kept ++ rest = message ∧
      kept.utf8ByteSize = boundaryAtOrBelow message.toList limit := by
  have between := isBoundary_boundaryAtOrBelow message.toList limit
  obtain ⟨⟨kept, rest⟩, cut⟩ := Option.isSome_iff_exists.mp between
  obtain ⟨same, size⟩ := splitBytes?_eq_some_iff.mp cut
  refine ⟨String.ofList kept, String.ofList rest, ?_, ?_, ?_⟩
  · rw [clipped, if_neg (Nat.not_le.mpr long), cut]
  · rw [← String.ofList_append, ← same, String.ofList_toList]
  · rw [utf8ByteSize_ofList, size]

theorem longestWithin_of_search {kept rest : String} (cut : kept ++ rest = message)
    (size : kept.utf8ByteSize = boundaryAtOrBelow message.toList limit)
    (below : boundaryAtOrBelow message.toList limit ≤ limit) :
    LongestWithin limit message kept where
  leads := ⟨rest, cut⟩
  within := size ▸ below
  longest other rest cut within := by
    have between : isBoundary message.toList other.utf8ByteSize = true := by
      rw [isBoundary_iff_isValid, String.Pos.Raw.isValid_iff_exists_append]
      exact ⟨other, rest, cut.symm, rfl⟩
    rw [size]
    exact le_boundaryAtOrBelow between within

end Clipping

/-- A message within the limit stays as it is. Of a longer one the longest first part within the
limit is kept, and three dots follow it. The search for its end takes at most three steps of one
byte, each from inside of a character, and so what is kept is at most three bytes short. -/
theorem clipped_longest (limit : Nat) (message : String) :
    (message.utf8ByteSize ≤ limit → clipped limit message = message) ∧
    (limit < message.utf8ByteSize → ∃ kept steps,
      clipped limit message = kept ++ "..." ∧ LongestWithin limit message kept ∧
      boundaryAtOrBelow message.toList limit = kept.utf8ByteSize ∧
      StepsBack message limit steps kept.utf8ByteSize ∧ steps ≤ 3 ∧
      kept.utf8ByteSize + steps = limit) := by
  refine ⟨clipped_of_short, fun long => ?_⟩
  obtain ⟨kept, rest, clips, cut, size⟩ := clipped_of_long long
  obtain ⟨steps, search, counted⟩ := stepsBack_boundaryAtOrBelow message limit
  have inside : limit < byteSize message.toList := by
    rwa [← utf8ByteSize_ofList, String.ofList_toList]
  have near : limit ≤ boundaryAtOrBelow message.toList limit + 3 :=
    le_boundaryAtOrBelow_add_three inside
  have longest : LongestWithin limit message kept :=
    longestWithin_of_search cut size (Nat.le.intro counted)
  rw [← size] at search counted near
  exact ⟨kept, steps, clips, longest, size.symm, search, by omega, counted⟩

/-- The limit is in the last byte of a character of four bytes, and the search takes three steps. -/
theorem clipped_longest_four_bytes :
    let message := String.ofList ['a', '😀']
    message.utf8ByteSize ≤ 5 ∧ clipped 5 message = message ∧
    4 < message.utf8ByteSize ∧ ∃ kept, clipped 4 message = kept ++ "..." ∧
      LongestWithin 4 message kept ∧ kept.utf8ByteSize = 1 ∧
      StepsBack message 4 3 kept.utf8ByteSize := by
  intro message
  have bytes : message.utf8ByteSize = 5 := utf8ByteSize_ofList _
  have short : message.utf8ByteSize ≤ 5 := Nat.le_of_eq bytes
  have long : 4 < message.utf8ByteSize := Nat.lt_of_lt_of_eq (by decide) bytes.symm
  obtain ⟨kept, steps, clips, longest, ends, search, -, counted⟩ :=
    (clipped_longest 4 message).2 long
  have one : kept.utf8ByteSize = 1 := by
    rw [← ends, String.toList_ofList]
    decide
  obtain rfl : steps = 3 := by omega
  exact ⟨short, (clipped_longest 5 message).1 short, long, kept, clips, longest, one, search⟩

end LexReport.Text
