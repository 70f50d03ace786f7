import LexReport.Proofs.Input.Course
import LexReport.Proofs.Text.OnePass

/-! Whether an input is read, and what for if it is not: each path goes exactly one way. The text
that is read, the number of its lines and the number of rewritten line ends are told without the
steps that find them. -/

set_option autoImplicit false

namespace LexReport

theorem Text.lineTotal_push (front : String) (last : Char) :
    lineTotal (front.push last) =
      (front.push last).toList.count '\n' + if last = '\n' then 0 else 1 := by
  rw [lineTotal_eq, String.toList_push, List.getLast?_concat, Option.getD_some]

namespace Input

open Files Notice

section Prepared

variable (preferences : FilePreferences) (raw : String)

theorem prepared_text :
    (prepared preferences raw).1.toList =
      if preferences.normalizeLineEndings then (Text.onePass raw.toList).1 else raw.toList := by
  unfold prepared
  split
  · exact Text.uniformLineEndings_text raw
  · rfl

theorem prepared_count :
    (prepared preferences raw).2 =
      if preferences.normalizeLineEndings then raw.toList.count '\r' else 0 := by
  unfold prepared
  split
  · exact Text.uniformLineEndings_count raw
  · rfl

end Prepared

section Decided

variable {limits : FileLimits} {preferences : FilePreferences} {tree : Tree} {elapsed : Nat}
  {path : String}

theorem read_iff_course {result : Except Error Source} :
    (read limits preferences tree elapsed path).result = result ↔
      Course limits preferences tree path result :=
  ⟨fun ended => ended ▸ read_course limits preferences tree elapsed path,
    fun course => read_of_course course elapsed⟩

theorem byteSize_of_read {source : Source}
    (ended : (read limits preferences tree elapsed path).result = .ok source) :
    Text.byteSize source.text.toList ≤ limits.maxFileSize := by
  cases read_iff_course.mp ended with
  | @read location raw resolved held readable fits filled short =>
    have size : raw.utf8ByteSize = Text.byteSize raw.toList := by
      rw [← Text.utf8ByteSize_ofList, String.ofList_toList]
    rw [size] at fits
    dsimp only
    rw [prepared_text]
    split
    · exact Nat.le_trans (Text.byteSize_onePass_le _) fits
    · exact fits

theorem read_succeeds_iff :
    (∃ source, (read limits preferences tree elapsed path).result = .ok source) ↔
      path ≠ "" ∧ ∃ location raw, tree.resolve path = .ok location ∧
        tree.node? location = some (.file raw.toUTF8) ∧ tree.IsReadable location ∧
        raw.utf8ByteSize ≤ limits.maxFileSize ∧ raw ≠ "" ∧
        Text.lineTotal (prepared preferences raw).1 ≤ limits.maxLineCount := by
  constructor
  · rintro ⟨source, ended⟩
    cases read_iff_course.mp ended with
    | read resolved held readable fits filled short =>
      exact ⟨Tree.ne_empty_of_resolve resolved, _, _, resolved, held, readable, fits, filled, short⟩
  · rintro ⟨-, location, raw, resolved, held, readable, fits, filled, short⟩
    exact ⟨_, read_iff_course.mpr (.read resolved held readable fits filled short)⟩

end Decided

/-- An input is read just if its path leads to a file that can be read, is not too large and holds a
text, not empty and of not too many lines. Otherwise the error is that of the first check that
fails. What is read is the text with its line ends as they are wanted, the size of the file, and the
number of lines and of rewritten returns. -/
theorem read_decided (limits : FileLimits) (preferences : FilePreferences) (tree : Tree)
    (elapsed : Nat) (path : String) :
    ((∃ source, (read limits preferences tree elapsed path).result = .ok source) ↔
      path ≠ "" ∧ ∃ location raw, tree.resolve path = .ok location ∧
        tree.node? location = some (.file raw.toUTF8) ∧ tree.IsReadable location ∧
        raw.utf8ByteSize ≤ limits.maxFileSize ∧ raw ≠ "" ∧
        Text.lineTotal (prepared preferences raw).1 ≤ limits.maxLineCount) ∧
    (∀ result, (read limits preferences tree elapsed path).result = result ↔
      Course limits preferences tree path result) ∧
    (∀ raw, (prepared preferences raw).1.toList =
        if preferences.normalizeLineEndings then (Text.onePass raw.toList).1 else raw.toList) ∧
    (∀ raw, (prepared preferences raw).2 =
        if preferences.normalizeLineEndings then raw.toList.count '\r' else 0) ∧
    ∀ (front : String) (last : Char), Text.lineTotal (front.push last) =
      (front.push last).toList.count '\n' + if last = '\n' then 0 else 1 :=
  ⟨read_succeeds_iff, fun _ => read_iff_course, prepared_text preferences,
    prepared_count preferences, Text.lineTotal_push⟩

end Input

end LexReport
