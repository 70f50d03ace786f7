import LexReport.Proofs.Text.LineEndings

/-! Replacing the pairs first and then the returns that are left comes to one pass over the text.
What the pass leaves holds no return, and it can be made piece by piece unless a pair is cut. -/

set_option autoImplicit false

namespace LexReport.Text

/-- One pass over a text, and how often it rewrote: a return, with the line feed after it if there
is one, is read as one line feed, and every other character is copied. -/
def onePass : List Char → List Char × Nat
  | [] => ([], 0)
  | '\r' :: '\n' :: rest => ('\n' :: (onePass rest).1, (onePass rest).2 + 1)
  | '\r' :: rest => ('\n' :: (onePass rest).1, (onePass rest).2 + 1)
  | c :: rest => (c :: (onePass rest).1, (onePass rest).2)

/-- The border of two texts lies between a return and its line feed. -/
def CutsPair (front back : List Char) : Prop :=
  front.getLast? = some '\r' ∧ back.head? = some '\n'

variable {c : Char} {text rest front back : List Char}

section Pass

theorem onePass_lone (alone : rest.head? ≠ some '\n') :
    onePass ('\r' :: rest) = ('\n' :: (onePass rest).1, (onePass rest).2 + 1) := by
  rw [onePass]
  rintro more rfl
  exact alone rfl

theorem onePass_other (notReturn : c ≠ '\r') :
    onePass (c :: rest) = (c :: (onePass rest).1, (onePass rest).2) := by
  rw [onePass]
  · rintro more rfl
    exact absurd rfl notReturn
  · exact notReturn

theorem onePass_of_plain (plain : '\r' ∉ text) : onePass text = (text, 0) := by
  induction text with
  | nil => rfl
  | cons c rest ih =>
    rw [List.mem_cons, not_or] at plain
    rw [onePass_other (Ne.symm plain.1), ih plain.2]

theorem onePass_count (text : List Char) : (onePass text).2 = text.count '\r' := by
  fun_induction onePass text with
  | case1 => rfl
  | case2 rest ih => simp [ih]
  | case3 rest alone ih => simp [ih]
  | case4 c rest notPair notReturn ih => rw [ih, List.count_cons_of_ne notReturn]

theorem byteSize_onePass_le (text : List Char) : byteSize (onePass text).1 ≤ byteSize text := by
  fun_induction onePass text with
  | case1 => exact Nat.le_refl _
  | case2 rest ih | case3 rest alone ih =>
    have feed : '\n'.utf8Size = 1 := rfl
    have back : '\r'.utf8Size = 1 := rfl
    simp only [byteSize_cons]
    omega
  | case4 c rest notPair notReturn ih =>
    rw [byteSize_cons, byteSize_cons]
    omega

theorem return_not_mem_onePass (text : List Char) : '\r' ∉ (onePass text).1 := by
  fun_induction onePass text with
  | case1 => simp
  | case2 rest ih => simp [ih]
  | case3 rest alone ih => simp [ih]
  | case4 c rest notPair notReturn ih => simp [ih, Ne.symm notReturn]

theorem head?_ne_of_alone (alone : ∀ more, rest = '\n' :: more → False) :
    rest.head? ≠ some '\n' := by
  cases rest with
  | nil => simp
  | cons c more =>
    rintro first
    exact alone more (by rw [Option.some.inj first])

/-- The two steps, on top of the reversed text that was already read. -/
theorem replaceReturns_joinReturnPairs (read text : List Char) :
    replaceReturns (joinReturnPairs read text) =
      replaceReturns read.reverse ++ (onePass text).1 := by
  fun_induction onePass text generalizing read with
  | case1 => simp [joinReturnPairs]
  | case2 rest ih =>
    rw [joinReturnPairs_pair, ih]
    simp [replaceReturns]
  | case3 rest alone ih =>
    rw [joinReturnPairs_single fun _ => head?_ne_of_alone alone, ih]
    simp [replaceReturns]
  | case4 c rest notPair notReturn ih =>
    rw [joinReturnPairs_single fun isReturn => absurd isReturn notReturn, ih]
    simp [replaceReturns, show c ≠ '\r' from notReturn]

theorem uniformLineEndings_text (text : String) :
    (uniformLineEndings text).1.toList = (onePass text.toList).1 := by
  rw [uniformLineEndings]
  split
  · rename_i none
    rw [onePass_of_plain (List.count_eq_zero.mp none)]
  · rw [replaceReturns_joinReturnPairs]
    exact String.toList_ofList

theorem uniformLineEndings_count (text : String) :
    (uniformLineEndings text).2 = text.toList.count '\r' := by
  rw [uniformLineEndings]
  split
  · rename_i none
    exact none.symm
  · rfl

end Pass

section Append

theorem CutsPair.cons (cut : CutsPair rest back) : CutsPair (c :: rest) back :=
  ⟨by rw [List.getLast?_cons, cut.1, Option.getD_some], cut.2⟩

theorem onePass_append (whole : ¬CutsPair front back) :
    (onePass (front ++ back)).1 = (onePass front).1 ++ (onePass back).1 := by
  fun_induction onePass front with
  | case1 => rfl
  | case2 rest ih =>
    show '\n' :: (onePass (rest ++ back)).1 = _
    rw [ih fun cut => whole cut.cons.cons, List.cons_append]
  | case3 rest alone ih =>
    have apart : (rest ++ back).head? ≠ some '\n' := by
      cases rest with
      | nil => exact fun first => whole ⟨rfl, first⟩
      | cons c more => simpa using head?_ne_of_alone alone
    rw [List.cons_append, onePass_lone apart, ih fun cut => whole cut.cons, List.cons_append]
  | case4 c rest notPair notReturn ih =>
    rw [List.cons_append, onePass_other notReturn, ih fun cut => whole cut.cons, List.cons_append]

/-- Where a pair is cut the two passes make two line feeds of it. -/
theorem length_onePass_append (cut : CutsPair front back) :
    (onePass (front ++ back)).1.length + 1 = ((onePass front).1 ++ (onePass back).1).length := by
  obtain ⟨last, first⟩ := cut
  obtain ⟨read, rfl⟩ := List.getLast?_eq_some_iff.mp last
  obtain ⟨more, rfl⟩ := List.head?_eq_some_iff.mp first
  -- A return begins no second half of a pair, so both sides can be taken apart before it.
  have kept (following : List Char) : ¬CutsPair read ('\r' :: following) := by
    rintro ⟨-, starts⟩
    simp at starts
  have whole : (onePass (read ++ ['\r'] ++ '\n' :: more)).1 =
      (onePass read).1 ++ '\n' :: (onePass more).1 := by
    rw [List.append_assoc, List.singleton_append, onePass_append (kept _)]
    rfl
  have parts : (onePass (read ++ ['\r'])).1 ++ (onePass ('\n' :: more)).1 =
      (onePass read).1 ++ '\n' :: '\n' :: (onePass more).1 := by
    rw [onePass_append (kept _), List.append_assoc, onePass_other (c := '\n') (by decide)]
    rfl
  rw [whole, parts]
  simp
  omega

theorem onePass_append_iff (front back : List Char) :
    (onePass (front ++ back)).1 = (onePass front).1 ++ (onePass back).1 ↔ ¬CutsPair front back := by
  constructor
  · intro same cut
    have longer := length_onePass_append cut
    rw [same] at longer
    omega
  · exact onePass_append

end Append

/-- Uniform line endings are made as in one pass. No return is left, so that nothing is rewritten a
second time; there are as many rewrites as returns; and two texts can be made uniform one after the
other just if no pair is cut between them. -/
theorem uniformLineEndings_one_pass (text : String) :
    (uniformLineEndings text).1.toList = (onePass text.toList).1 ∧
    (uniformLineEndings text).2 = (onePass text.toList).2 ∧
    (uniformLineEndings text).2 = text.toList.count '\r' ∧
    '\r' ∉ (uniformLineEndings text).1.toList ∧
    uniformLineEndings (uniformLineEndings text).1 = ((uniformLineEndings text).1, 0) ∧
    ∀ more, (uniformLineEndings (text ++ more)).1 =
        (uniformLineEndings text).1 ++ (uniformLineEndings more).1 ↔
      ¬CutsPair text.toList more.toList := by
  have plain : '\r' ∉ (uniformLineEndings text).1.toList := by
    rw [uniformLineEndings_text]
    exact return_not_mem_onePass _
  refine ⟨uniformLineEndings_text text, ?_, uniformLineEndings_count text, plain,
    uniformLineEndings_of_plain plain, fun more => ?_⟩
  · rw [uniformLineEndings_count, onePass_count]
  · rw [← onePass_append_iff, ← String.toList_inj, String.toList_append, uniformLineEndings_text,
      uniformLineEndings_text, uniformLineEndings_text, String.toList_append]

example : uniformLineEndings "a\r\r\nb\r" = ("a\n\nb\n", 3) := by cbv

end LexReport.Text
