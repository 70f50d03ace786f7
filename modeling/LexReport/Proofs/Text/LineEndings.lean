import LexReport.Proofs.Text.Bytes
import LexReport.Text.LineEndings
import Mathlib.Data.List.Count

/-! A text is the same again once its line endings are made uniform, however each of its lines is
made to end, so long as no line end can be mistaken for part of the one before. -/

set_option autoImplicit false

namespace LexReport.Text

inductive LineEnding where
  | feed
  /-- A carriage return and a line feed. -/
  | pair
  /-- A carriage return alone. -/
  | lone
  deriving DecidableEq, Repr

def LineEnding.chars : LineEnding → List Char
  | feed => ['\n']
  | pair => ['\r', '\n']
  | lone => ['\r']

/-- A text with its line breaks written in given ways; the breaks are counted from zero. -/
def written (endings : Nat → LineEnding) : List Char → List Char
  | [] => []
  | c :: rest =>
    if c = '\n' then (endings 0).chars ++ written (fun i => endings (i + 1)) rest
    else c :: written endings rest

/-- No return that stands alone comes right before a line feed that stands alone. -/
def Apart (endings : Nat → LineEnding) (text : List Char) : Prop :=
  ∀ front back, text = front ++ '\n' :: '\n' :: back → endings (front.count '\n') = .lone →
    endings (front.count '\n' + 1) ≠ .feed

def rewrites (endings : Nat → LineEnding) (breaks : Nat) : Nat :=
  (List.range breaks).countP fun i => endings i ≠ .feed

variable {endings : Nat → LineEnding} {c : Char} {text rest : List Char}

section Written

theorem written_break (endings : Nat → LineEnding) (rest : List Char) :
    written endings ('\n' :: rest) =
      (endings 0).chars ++ written (fun i => endings (i + 1)) rest := by
  rw [written, if_pos rfl]

theorem written_of_ne (notBreak : c ≠ '\n') (endings : Nat → LineEnding) (rest : List Char) :
    written endings (c :: rest) = c :: written endings rest := by
  rw [written, if_neg notBreak]

theorem Apart.behind_break (apart : Apart endings ('\n' :: rest)) :
    Apart (fun i => endings (i + 1)) rest := by
  intro front back same alone
  have here := apart ('\n' :: front) back (by rw [same, List.cons_append])
  rw [List.count_cons_self] at here
  exact here alone

theorem Apart.behind_other (notBreak : c ≠ '\n') (apart : Apart endings (c :: rest)) :
    Apart endings rest := by
  intro front back same alone
  have here := apart (c :: front) back (by rw [same, List.cons_append])
  rw [List.count_cons_of_ne notBreak] at here
  exact here alone

theorem Apart.head?_ne (apart : Apart endings ('\n' :: rest)) (alone : endings 0 = .lone) :
    (written (fun i => endings (i + 1)) rest).head? ≠ some '\n' := by
  cases rest with
  | nil => simp [written]
  | cons c rest =>
    by_cases isBreak : c = '\n'
    · subst isBreak
      have notFeed : endings 1 ≠ .feed := apart [] rest rfl alone
      rw [written_break]
      cases second : endings (0 + 1) with
      | feed => exact absurd second notFeed
      | pair | lone => simp [LineEnding.chars]
    · rw [written_of_ne isBreak]
      simpa using isBreak

end Written

section Joined

theorem joinReturnPairs_single (single : c = '\r' → rest.head? ≠ some '\n') (read : List Char) :
    joinReturnPairs read (c :: rest) = joinReturnPairs (c :: read) rest := by
  rw [joinReturnPairs]
  rintro more rfl rfl
  exact single rfl rfl

theorem joinReturnPairs_pair (read rest : List Char) :
    joinReturnPairs read ('\r' :: '\n' :: rest) = joinReturnPairs ('\n' :: read) rest := by
  rw [joinReturnPairs]

theorem replaceReturns_joinReturnPairs_written (plain : '\r' ∉ text) (apart : Apart endings text)
    (read : List Char) :
    replaceReturns (joinReturnPairs read (written endings text)) =
      replaceReturns read.reverse ++ text := by
  induction text generalizing endings read with
  | nil => simp [written, joinReturnPairs]
  | cons c text ih =>
    rw [List.mem_cons, not_or] at plain
    obtain ⟨notReturn, plain⟩ := plain
    by_cases isBreak : c = '\n'
    · subst isBreak
      rw [written_break]
      cases first : endings 0 with
      | feed =>
        show replaceReturns (joinReturnPairs read ('\n' :: written _ text)) = _
        rw [joinReturnPairs_single (by simp), ih plain apart.behind_break]
        simp [replaceReturns]
      | pair =>
        show replaceReturns (joinReturnPairs read ('\r' :: '\n' :: written _ text)) = _
        rw [joinReturnPairs_pair, ih plain apart.behind_break]
        simp [replaceReturns]
      | lone =>
        -- No feed comes behind this return, so it is not taken for the first of a pair.
        show replaceReturns (joinReturnPairs read ('\r' :: written _ text)) = _
        rw [joinReturnPairs_single fun _ => apart.head?_ne first, ih plain apart.behind_break]
        simp [replaceReturns]
    · rw [written_of_ne isBreak, joinReturnPairs_single fun same => absurd same.symm notReturn,
        ih plain (apart.behind_other isBreak)]
      simp [replaceReturns, Ne.symm notReturn]

end Joined

section Counted

theorem rewrites_succ (endings : Nat → LineEnding) (breaks : Nat) :
    rewrites endings (breaks + 1) =
      (if endings 0 = .feed then 0 else 1) + rewrites (fun i => endings (i + 1)) breaks := by
  rw [rewrites, List.range_succ_eq_map, List.countP_cons, List.countP_map, Nat.add_comm, rewrites]
  by_cases first : endings 0 = .feed <;> simp [first, Function.comp_def]

theorem count_return_written (plain : '\r' ∉ text) (endings : Nat → LineEnding) :
    (written endings text).count '\r' = rewrites endings (text.count '\n') := by
  induction text generalizing endings with
  | nil => rfl
  | cons c text ih =>
    rw [List.mem_cons, not_or] at plain
    obtain ⟨notReturn, plain⟩ := plain
    by_cases isBreak : c = '\n'
    · subst isBreak
      rw [written_break, List.count_append, ih plain, List.count_cons_self, rewrites_succ]
      cases endings 0 <;> rfl
    · rw [written_of_ne isBreak, List.count_cons_of_ne (Ne.symm notReturn), ih plain,
        List.count_cons_of_ne isBreak]

theorem byteSize_le_written (endings : Nat → LineEnding) (text : List Char) :
    byteSize text ≤ byteSize (written endings text) := by
  induction text generalizing endings with
  | nil => exact Nat.le_refl _
  | cons c text ih =>
    by_cases isBreak : c = '\n'
    · subst isBreak
      have one : byteSize ['\n'] ≤ byteSize (endings 0).chars := by cases endings 0 <;> decide
      rw [written_break, ← List.singleton_append, byteSize_append, byteSize_append]
      exact Nat.add_le_add one (ih _)
    · rw [written_of_ne isBreak, byteSize_cons, byteSize_cons]
      exact Nat.add_le_add_left (ih _) _

end Counted

section Uniform

def reencoded (endings : Nat → LineEnding) (text : String) : String :=
  String.ofList (written endings text.toList)

theorem uniformLineEndings_of_plain {text : String} (plain : '\r' ∉ text.toList) :
    uniformLineEndings text = (text, 0) := by
  rw [uniformLineEndings, if_pos (List.count_eq_zero.mpr plain)]

theorem written_of_no_rewrites (plain : '\r' ∉ text)
    (none : rewrites endings (text.count '\n') = 0) : written endings text = text := by
  induction text generalizing endings with
  | nil => rfl
  | cons c text ih =>
    rw [List.mem_cons, not_or] at plain
    obtain ⟨-, plain⟩ := plain
    by_cases isBreak : c = '\n'
    · subst isBreak
      rw [List.count_cons_self, rewrites_succ, Nat.add_eq_zero_iff] at none
      have first : endings 0 = .feed := by
        by_contra other
        rw [if_neg other] at none
        exact absurd none.1 (by decide)
      rw [written_break, first, ih plain none.2]
      rfl
    · rw [List.count_cons_of_ne isBreak] at none
      rw [written_of_ne isBreak, ih plain none]

theorem uniformLineEndings_reencoded {text : String} (plain : '\r' ∉ text.toList)
    (apart : Apart endings text.toList) :
    uniformLineEndings (reencoded endings text) =
      (text, rewrites endings (text.toList.count '\n')) := by
  rw [uniformLineEndings, reencoded, String.toList_ofList, count_return_written plain]
  split
  · rename_i none
    rw [written_of_no_rewrites plain none, String.ofList_toList, none]
  · rw [replaceReturns_joinReturnPairs_written plain apart]
    simp [replaceReturns]

end Uniform

theorem joinReturnPairs_eq_nil_iff (read text : List Char) :
    joinReturnPairs read text = [] ↔ read = [] ∧ text = [] := by
  fun_induction joinReturnPairs read text <;> simp_all

theorem uniformLineEndings_eq_empty_iff (text : String) :
    (uniformLineEndings text).1 = "" ↔ text = "" := by
  unfold uniformLineEndings
  dsimp only
  split
  · rfl
  · rw [← String.toList_eq_nil_iff, ← String.toList_eq_nil_iff, String.toList_ofList,
      replaceReturns, List.map_eq_nil_iff, joinReturnPairs_eq_nil_iff]
    exact and_iff_right rfl

section Lines

/-- There is a line for each line feed, and one more if something is behind the last. The line under
way holds no line feed, so that only the text decides. -/
theorem size_linesOnto (lines : Array (List Char)) {line : List Char}
    (unended : line.head? ≠ some '\n') (text : List Char) :
    (linesOnto lines line text).size = lines.size + text.count '\n' +
      if (line.reverse ++ text).getLast?.getD '\n' = '\n' then 0 else 1 := by
  induction text generalizing lines line with
  | nil =>
    cases line with
    | nil => rfl
    | cons c line =>
      have notFeed : c ≠ '\n' := fun same => unended (congrArg some same)
      simp [linesOnto, notFeed]
  | cons c text ih =>
    have last : (line.reverse ++ c :: text).getLast? = some (text.getLast?.getD c) := by
      rw [List.getLast?_append, List.getLast?_cons, Option.some_or]
    rw [linesOnto, last, Option.getD_some]
    by_cases feed : c = '\n'
    · subst feed
      rw [if_pos rfl, ih _ (by simp), Array.size_push, List.count_cons_self, List.reverse_nil,
        List.nil_append]
      omega
    · have unended : (c :: line).head? ≠ some '\n' := mt Option.some.inj feed
      rw [if_neg feed, ih _ unended, List.count_cons_of_ne feed, List.reverse_cons,
        List.append_assoc, List.singleton_append, last, Option.getD_some]

theorem lineTotal_eq (text : String) :
    lineTotal text =
      text.toList.count '\n' + if text.toList.getLast?.getD '\n' = '\n' then 0 else 1 :=
  (size_linesOnto #[] (by simp) text.toList).trans (congrArg (· + _) (Nat.zero_add _))

theorem lineTotal_le (text : String) : lineTotal text ≤ text.toList.count '\n' + 1 := by
  rw [lineTotal_eq]
  split <;> omega

end Lines

end LexReport.Text
