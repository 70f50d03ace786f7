import LexReport.Proofs.Input.Outcome
import LexReport.Proofs.Report.Lines
import LexReport.Proofs.Source.Lines

/-! The lines of a text are the whole text: nothing of it is lost when it is cut at its line feeds.
The lines that reading counts are those lines, without an empty one behind a last line feed. -/

set_option autoImplicit false

namespace LexReport

namespace Text

theorem feed_not_mem_of_splitOn {text line : List Char} (part : line ∈ text.splitOn '\n') :
    '\n' ∉ line := by
  induction text generalizing line with
  | nil =>
    obtain rfl := List.mem_singleton.mp part
    exact List.not_mem_nil
  | cons c text ih =>
    obtain ⟨first, others, cut⟩ := List.exists_cons_of_ne_nil (List.splitOn_ne_nil '\n' text)
    rw [List.splitOn_cons_eq_if_modifyHead] at part
    split at part
    · rcases List.mem_cons.mp part with rfl | later
      · exact List.not_mem_nil
      · exact ih later
    · rename_i other
      rw [cut, List.modifyHead_cons] at part
      rcases List.mem_cons.mp part with rfl | later
      · rw [List.mem_cons, not_or]
        exact ⟨fun feed => other (beq_iff_eq.mpr feed.symm), ih (cut ▸ List.mem_cons_self)⟩
      · exact ih (cut ▸ List.mem_cons_of_mem _ later)

end Text

namespace Source

open Text

namespace Lines

variable {text : Lines}

theorem line?_behind (index : Nat) {earlier rest : List Char}
    (cut : text.source = earlier ++ rest) (ends : EndsLine earlier) :
    text.line? (earlier.count '\n' + index + 1) =
      (rest.splitOn '\n')[index]?.map String.ofList := by
  obtain ⟨line, later, split, inside, stop, -⟩ := run_split (· != '\n') rest
  have inLine : '\n' ∉ line := fun member => by simpa using inside _ member
  cases later with
  | nil =>
    rw [List.append_nil] at split
    subst split
    rw [List.splitOn_eq_singleton inLine]
    cases index with
    | zero => exact LineOf.line? ⟨by rw [cut, List.append_nil], ends, inLine, .inl rfl⟩
    | succ index =>
      refine line?_eq_none_of_count ?_
      rw [count_eq, cut, List.count_append, List.count_eq_zero.mpr inLine]
      omega
  | cons feed more =>
    obtain rfl : feed = '\n' := by simpa using stop
    subst split
    rw [List.splitOn_append_cons_self_of_not_mem inLine]
    cases index with
    | zero => exact LineOf.line? ⟨cut, ends, inLine, .inr ⟨more, rfl⟩⟩
    | succ index =>
      -- With one line more, whole lines are before the rest again.
      have cut : text.source = (earlier ++ line ++ ['\n']) ++ more := by
        rw [cut]
        simp
      have further := line?_behind index cut (.inr ⟨_, rfl⟩)
      rw [List.count_append, List.count_append, List.count_eq_zero.mpr inLine,
        List.count_singleton_self, Nat.add_zero, Nat.add_right_comm _ 1 index] at further
      exact further

variable (text)

/-- The lines are the parts of the text between its line feeds. -/
theorem line?_eq_splitOn (index : Nat) :
    text.line? (index + 1) = (text.source.splitOn '\n')[index]?.map String.ofList := by
  have all := line?_behind index (List.nil_append text.source).symm (.inl rfl)
  rwa [List.count_nil, Nat.zero_add] at all

theorem length_splitOn : (text.source.splitOn '\n').length = text.count :=
  (Report.length_splitOn text.source).trans text.count_eq.symm

variable {text}

theorem feed_not_mem_line {number : Nat} {line : String} (here : text.line? number = some line) :
    '\n' ∉ line.toList := by
  cases number with
  | zero => contradiction
  | succ index =>
    rw [line?_eq_splitOn] at here
    obtain ⟨part, member, rfl⟩ := Option.map_eq_some_iff.mp here
    rw [String.toList_ofList]
    exact feed_not_mem_of_splitOn (List.mem_of_getElem? member)

variable (text)

theorem lines_joined :
    ∃ parts, (List.range' 1 text.count).map text.line? = parts.map some ∧
      "\n".intercalate parts = String.ofList text.source := by
  refine ⟨(text.source.splitOn '\n').map String.ofList, ?_, ?_⟩
  · refine List.ext_getElem ?_ fun index inside within => ?_
    · rw [List.length_map, List.length_range', List.length_map, List.length_map, length_splitOn]
    · rw [List.getElem_map, List.getElem_range', Nat.one_mul, Nat.add_comm, line?_eq_splitOn,
        ← List.getElem?_map, List.getElem_map, List.getElem?_eq_getElem]
  · have parts : String.toList ∘ String.ofList = id := funext fun _ => String.toList_ofList
    rw [← String.toList_inj, String.toList_intercalate, List.map_map, parts, List.map_id]
    exact (List.intercalate_splitOn '\n').trans String.toList_ofList.symm

end Lines

/-- The lines of a text that is not empty, but for an empty line behind a last line feed. -/
theorem lineTotal_eq_count {text : String} (filled : text ≠ "") :
    lineTotal text = (Lines.ofText text.toList).count -
      if text.toList.getLast? = some '\n' then 1 else 0 := by
  have counted : (Lines.ofText text.toList).count = text.toList.count '\n' + 1 :=
    Lines.count_eq _
  obtain ⟨last, ended⟩ : ∃ last, text.toList.getLast? = some last :=
    Option.ne_none_iff_exists'.mp
      (mt List.getLast?_eq_none_iff.mp (mt String.toList_eq_nil_iff.mp filled))
  rw [counted, lineTotal_eq, ended, Option.getD_some]
  by_cases feed : last = '\n'
  · rw [if_pos feed, if_pos (congrArg some feed)]
    rfl
  · rw [if_neg feed, if_neg (mt Option.some.inj feed)]
    rfl

theorem lineCount_of_read {limits : FileLimits} {preferences : FilePreferences}
    {tree : Files.Tree} {elapsed : Nat} {path : String} {source : Input.Source}
    (ended : (Input.read limits preferences tree elapsed path).result = .ok source) :
    source.lineCount = (Lines.ofText source.text.toList).count -
      if source.text.toList.getLast? = some '\n' then 1 else 0 := by
  cases Input.read_iff_course.mp ended with
  | @read location raw resolved held readable fits filled short =>
    exact lineTotal_eq_count (mt (Input.prepared_eq_empty_iff preferences raw).mp filled)

/-- A text is cut into lines without loss, and it is these lines that reading counts, but for an
empty one behind a last line feed. -/
theorem cut_into_lines (text : String) :
    let lines := Lines.ofText text.toList
    lines.count = text.toList.count '\n' + 1 ∧
    (∀ number, (lines.line? number).isSome = true ↔ 1 ≤ number ∧ number ≤ lines.count) ∧
    (∀ number line, lines.line? number = some line → '\n' ∉ line.toList) ∧
    (∃ parts, (List.range' 1 lines.count).map lines.line? = parts.map some ∧
      "\n".intercalate parts = text) ∧
    (text ≠ "" → lineTotal text =
      lines.count - if text.toList.getLast? = some '\n' then 1 else 0) ∧
    ∀ limits preferences tree elapsed path source,
      (Input.read limits preferences tree elapsed path).result = .ok source →
      source.text = text → source.lineCount =
        lines.count - if text.toList.getLast? = some '\n' then 1 else 0 := by
  intro lines
  refine ⟨lines.count_eq, lines.line?_isSome_iff, fun _ _ => Lines.feed_not_mem_line, ?_,
    lineTotal_eq_count, ?_⟩
  · obtain ⟨parts, each, joined⟩ := lines.lines_joined
    exact ⟨parts, each, joined.trans String.ofList_toList⟩
  · rintro limits preferences tree elapsed path source ended rfl
    exact lineCount_of_read ended

theorem cut_into_lines_blank :
    let text := String.ofList ['a', '\n', '\n', 'é', '\n']
    let tree : Files.Tree := { home := [], nodes := [(["in"], .file text.toUTF8)] }
    (Lines.ofText text.toList).line? 3 = some "é" ∧ '\n' ∉ "é".toList ∧
    text ≠ "" ∧ lineTotal text = 3 ∧
    ∃ source, (Input.read ⟨10, 10, 10⟩ {} tree 0 "in").result = .ok source ∧ source.text = text ∧
      source.lineCount = 3 := by
  intro text tree
  have spelled : text.toList = ['a', '\n', '\n', 'é', '\n'] := String.toList_ofList
  obtain ⟨counted, -, inLine, -, total, readTotal⟩ := cut_into_lines text
  have third : (Lines.ofText text.toList).line? 3 = some "é" := by
    rw [spelled]
    decide
  have filled : text ≠ "" := fun empty => by simp [empty] at spelled
  have plain : '\r' ∉ text.toList := by
    rw [spelled]
    decide
  have short : lineTotal text ≤ 10 := by
    rw [lineTotal_eq, spelled]
    decide
  have ended : text.toList.getLast? = some '\n' := by
    rw [spelled]
    rfl
  have number : (Lines.ofText text.toList).count = 4 := by
    rw [counted, spelled]
    rfl
  rw [number, if_pos ended] at total
  have same : Input.prepared {} text = (text, 0) := uniformLineEndings_of_plain plain
  have resolved : tree.resolve "in" = .ok ["in"] := rfl
  have read : (Input.read ⟨10, 10, 10⟩ {} tree 0 "in").result = .ok _ :=
    Input.read_iff_course.mpr
      (.read resolved rfl ⟨⟨rfl, rfl⟩, rfl⟩ (by decide) filled (by rw [same]; exact short))
  refine ⟨third, inLine 3 _ third, filled, total filled, _, read, congrArg Prod.fst same, ?_⟩
  have lineCount := readTotal _ _ _ _ _ _ read (congrArg Prod.fst same)
  rw [number, if_pos ended] at lineCount
  exact lineCount

end Source

end LexReport
