import LexReport.Proofs.Source.Places

/-! What a snippet shows: the line where a span starts, and carets under the part of the span that
lies in that line. -/

set_option autoImplicit false

namespace LexReport.Source

open Text

section Rows

/-- The rows of a snippet: a message, a place, and a line under its number, with carets from a
column on. The margin is as wide as the number, so that they stand under the line. -/
def snippetRows (message : String) (number column carets : Nat) (line : List Char) :
    List String :=
  let margin := repeated (toString number).length ' '
  [message, "  --> " ++ toString number ++ ":" ++ toString column, margin ++ " |",
    toString number ++ " | " ++ String.ofList line,
    margin ++ " | " ++ repeated (column - 1) ' ' ++ repeated carets '^']

def snippetText (message : String) (number column carets : Nat) (line : List Char) : String :=
  String.join ((snippetRows message number column carets line).map (· ++ "\n"))

end Rows

section Underlined

variable {before middle after : List Char}

/-- What is underlined is the part of the span before its first line feed, and all of it if it has
none. -/
theorem underlined?_eq {first last : Position} (here : Counts before first)
    (there : Counts (before ++ middle) last) :
    Lines.underlined? ⟨first, last⟩
        (String.ofList (lastLine before ++ firstLine (middle ++ after))) =
      some (firstLine middle).length := by
  have line := there.line
  have column := there.column
  rw [List.count_append] at line
  rw [Lines.underlined?, String.length_ofList, List.length_append]
  dsimp only
  by_cases feed : '\n' ∈ middle
  · have some := List.count_pos_iff.mpr feed
    have apart : first.line ≠ last.line := by
      rw [ne_eq, ← UInt32.toNat_inj, here.line, line]
      omega
    rw [if_neg apart, firstLine_append_of_feed feed, here.column, if_pos (by omega)]
    congr 1
    omega
  · have none := List.count_eq_zero.mpr feed
    have same : first.line = last.line := by
      rw [← UInt32.toNat_inj, here.line, line, none]
      rfl
    rw [lastLine_append before feed, List.length_append] at column
    rw [if_pos same, firstLine_of_inLine feed, here.column, column, if_pos (by omega)]
    congr 1
    omega

end Underlined

section Drawn

/-- No snippet is drawn where a line has the number and there is no telling how far to go in it or
how much of it to underline. -/
theorem snippet?_eq_none_iff {text : Lines} {span : Span} {message : String} :
    text.snippet? span message = none ↔
      ∃ line, text.line? span.first.line.toNat = some line ∧
        (Lines.underlined? span line = none ∨ span.first.column = 0) := by
  rw [Lines.snippet?]
  dsimp only
  cases text.line? span.first.line.toNat with
  | none => simp
  | some line =>
    simp only [Option.some.injEq, exists_eq_left']
    cases Lines.underlined? span line with
    | none => simp
    | some carets => by_cases wrapped : span.first.column = 0 <;> simp [wrapped]

/-- In one line a snippet is drawn by its columns alone, whatever the line has in it. -/
theorem snippet?_eq_none_iff_of_inLine {text : Lines} {span : Span} {message : String}
    (same : span.first.line = span.last.line) :
    text.snippet? span message = none ↔
      (text.line? span.first.line.toNat).isSome = true ∧
        (span.last.column < span.first.column ∨ span.first.column = 0) := by
  have columns (line : String) :
      Lines.underlined? span line = none ↔ span.last.column < span.first.column := by
    rw [Lines.underlined?, if_pos same, UInt32.lt_iff_toNat_lt]
    simp
  simp only [snippet?_eq_none_iff, columns, Option.isSome_iff_exists, exists_and_right]

theorem line_after_le (before : List Char) :
    (Position.start.after before).line.toNat ≤ before.count '\n' + 1 := by
  rw [Position.after_start]
  exact Nat.mod_le _ _

theorem line_after_append (before : List Char) {middle : List Char} (inLine : '\n' ∉ middle) :
    (Position.start.after (before ++ middle)).line = (Position.start.after before).line := by
  rw [Position.after_start, Position.after_start, List.count_append,
    List.count_eq_zero.mpr inLine, Nat.add_zero]

theorem snippet?_eq_none_iff_of_front (before middle rest : List Char) (message : String) :
    (Lines.ofText (before ++ middle ++ rest)).snippet?
        ⟨Position.start.after before, Position.start.after (before ++ middle)⟩ message = none ↔
      (Lines.ofText (before ++ middle)).snippet?
        ⟨Position.start.after before, Position.start.after (before ++ middle)⟩ message = none := by
  have number := line_after_le before
  by_cases feed : '\n' ∈ middle
  · -- The line ends in the part, so it is the same in both texts.
    have some := List.count_pos_iff.mpr feed
    have ends : (Position.start.after before).line.toNat ≤ (before ++ middle).count '\n' := by
      rw [List.count_append]
      omega
    rw [snippet?_eq_none_iff, snippet?_eq_none_iff]
    dsimp only
    rw [Lines.line?_append ends]
  · have counts (source : List Char) (more : before <+: source) :
        ((Lines.ofText source).line? (Position.start.after before).line.toNat).isSome = true ↔
          1 ≤ (Position.start.after before).line.toNat := by
      have feeds := more.sublist.count_le '\n'
      have total : (Lines.ofText source).count = source.count '\n' + 1 := Lines.count_eq _
      rw [Lines.line?_isSome_iff, total]
      omega
    have same := (line_after_append before feed).symm
    rw [snippet?_eq_none_iff_of_inLine same, snippet?_eq_none_iff_of_inLine same, counts, counts]
    · exact List.prefix_append before middle
    · rw [List.append_assoc]
      exact List.prefix_append before _

end Drawn

/-- A span from one place of a text to a later one is found, and its snippet shows the line of the
first place with a number of carets from that place on. -/
structure Shows (text : Lines) (before middle after : List Char) (span : Span) (carets : Nat) :
    Prop where
  found : text.span? (byteSize before) (byteSize before + byteSize middle) = some span
  shown : ∀ message, text.snippet? span message =
    some (snippetText message (1 + before.count '\n') (1 + (lastLine before).length) carets
      (lastLine before ++ firstLine (middle ++ after)))

theorem shows_of_cut {text : Lines} (short : byteSize text.source < UInt32.size - 1)
    {before middle after : List Char} (cut : text.source = before ++ (middle ++ after)) :
    Shows text before middle after
      ⟨Position.start.after before, Position.start.after (before ++ middle)⟩
      (max 1 (firstLine middle).length) := by
  have size : byteSize before + byteSize middle ≤ byteSize text.source := by
    rw [cut, byteSize_append, byteSize_append]
    omega
  have here : Counts before (Position.start.after before) := counts_after (by omega)
  have there : Counts (before ++ middle) (Position.start.after (before ++ middle)) :=
    counts_after (by rw [byteSize_append]; omega)
  have again : text.source = before ++ middle ++ after := by
    rw [cut, List.append_assoc]
  constructor
  · have ordered : byteSize before ≤ byteSize (before ++ middle) := by
      rw [byteSize_append]
      exact Nat.le_add_right _ _
    rw [← byteSize_append, Lines.span?, Lines.position?_cut cut, Lines.position?_cut again]
    show Span.between? _ _ = _
    rw [Span.between?, here.offset, there.offset, if_pos ordered]
  · intro message
    have inLine : (Position.start.after before).column ≠ 0 := by
      rw [ne_eq, ← UInt32.toNat_inj, here.column]
      simp
    rw [Lines.snippet?]
    dsimp only
    rw [here.line, Nat.add_comm 1, Lines.line?_cut cut]
    show (Lines.underlined? _ _).bind _ = _
    rw [underlined?_eq here there, Option.bind_some, if_neg inLine]
    show some _ = some _
    -- Two line feeds are written together with what stands next to them.
    have place : "\n  --> " = "\n" ++ "  --> " := rfl
    have empty : " |\n" = " |" ++ "\n" := rfl
    rw [Option.some.injEq, Position.text, here.line, here.column, Nat.max_comm, Nat.add_comm 1,
      place, empty]
    simp only [snippetText, snippetRows, String.join, String.append_assoc, List.map_cons,
      List.map_nil, List.foldl_cons, List.foldl_nil, String.empty_append, Nat.add_sub_cancel_left]

end LexReport.Source
