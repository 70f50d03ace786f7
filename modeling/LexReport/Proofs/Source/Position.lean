import LexReport.Proofs.Text.Bytes
import LexReport.Source.Position
import Mathlib.Data.List.DropRight

/-! The last and the first line of a text, and the place behind a text told by counting: its line by
the line feeds, its column by the characters behind the last of them. -/

set_option autoImplicit false

namespace LexReport.Source

open Text

section LastLine

/-- What stands behind the last line feed of a text, or all of it if it has none. -/
def lastLine (text : List Char) : List Char := text.rtakeWhile (· != '\n')

/-- Nothing, or a text that ends with a line feed: what follows starts a line. -/
def EndsLine (text : List Char) : Prop := text = [] ∨ ∃ lines, text = lines ++ ['\n']

theorem lastLine_concat (text : List Char) (c : Char) :
    lastLine (text ++ [c]) = if c = '\n' then [] else lastLine text ++ [c] := by
  rw [lastLine, List.rtakeWhile_concat]
  by_cases feed : c = '\n'
  · simp [feed]
  · simp [feed, lastLine]

theorem lastLine_append (text : List Char) {more : List Char} (inLine : '\n' ∉ more) :
    lastLine (text ++ more) = lastLine text ++ more := by
  induction more using List.reverseRecOn with
  | nil => simp
  | append_singleton more c ih =>
    rw [List.mem_append, List.mem_singleton, not_or] at inLine
    obtain ⟨inLine, other⟩ := inLine
    rw [← List.append_assoc, lastLine_concat, if_neg (Ne.symm other), ih inLine, List.append_assoc]

theorem EndsLine.lastLine {text : List Char} (ends : EndsLine text) : lastLine text = [] := by
  rcases ends with rfl | ⟨lines, rfl⟩
  · rfl
  · rw [lastLine_concat, if_pos rfl]

theorem not_mem_lastLine (text : List Char) : '\n' ∉ lastLine text := by
  intro member
  simpa using List.mem_rtakeWhile_imp member

theorem lastLine_split (text : List Char) :
    ∃ earlier, text = earlier ++ lastLine text ∧ EndsLine earlier := by
  induction text using List.reverseRecOn with
  | nil => exact ⟨[], rfl, .inl rfl⟩
  | append_singleton text c ih =>
    obtain ⟨earlier, same, ends⟩ := ih
    rw [lastLine_concat]
    split
    · rename_i feed
      subst feed
      exact ⟨text ++ ['\n'], (List.append_nil _).symm, .inr ⟨text, rfl⟩⟩
    · refine ⟨earlier, ?_, ends⟩
      rw [← List.append_assoc, ← same]

theorem count_feed_of_lastLine {text earlier : List Char} (same : text = earlier ++ lastLine text) :
    text.count '\n' = earlier.count '\n' := by
  have none := List.count_eq_zero.mpr (not_mem_lastLine text)
  rw [same, List.count_append, none, Nat.add_zero]

end LastLine

section FirstLine

def firstLine (text : List Char) : List Char := text.takeWhile (· != '\n')

theorem firstLine_of_inLine {text : List Char} (inLine : '\n' ∉ text) : firstLine text = text := by
  rw [firstLine, List.takeWhile_eq_self_iff]
  intro c member
  simpa using ne_of_mem_of_not_mem member inLine

theorem firstLine_append_of_feed {text : List Char} (feed : '\n' ∈ text) (rest : List Char) :
    firstLine (text ++ rest) = firstLine text := by
  induction text with
  | nil => cases feed
  | cons c text ih =>
    rw [firstLine, firstLine, List.cons_append, List.takeWhile_cons, List.takeWhile_cons]
    split
    · rename_i other
      rcases List.mem_cons.mp feed with rfl | later
      · simp at other
      · exact congrArg _ (ih later)
    · rfl

end FirstLine

namespace Position

/-- The place behind a text by counting its bytes, its line feeds and what follows the last one. -/
theorem after_start (text : List Char) :
    start.after text =
      ⟨byteSize text, .ofNat (text.count '\n' + 1), .ofNat ((lastLine text).length + 1)⟩ := by
  induction text using List.reverseRecOn with
  | nil => rfl
  | append_singleton text c ih =>
    rw [after_append, ih, after_cons, after_nil, next, lastLine_concat, byteSize_append,
      List.count_append]
    by_cases feed : c = '\n'
    · simp [feed, UInt32.ofNat_add]
    · simp [feed, UInt32.ofNat_add]

end Position

end LexReport.Source
