import Mathlib.Data.List.TakeWhile

/-! Runs: the longest start of a text whose characters all belong to a class. -/

set_option autoImplicit false

namespace LexReport.Text

variable {isMember : Char → Bool}

theorem takeWhile_of_stop {text : List Char} (stop : text.head?.any isMember = false) :
    text.takeWhile isMember = [] := by
  cases text with
  | nil => rfl
  | cons c text =>
    have outside : isMember c = false := by simpa using stop
    simp [outside]

theorem takeWhile_append_of_stop {run after : List Char} (inside : ∀ c ∈ run, isMember c = true)
    (stop : after.head?.any isMember = false) : (run ++ after).takeWhile isMember = run := by
  rw [List.takeWhile_append_of_pos inside, takeWhile_of_stop stop, List.append_nil]

theorem run_split (isMember : Char → Bool) (text : List Char) :
    ∃ run after, text = run ++ after ∧ (∀ c ∈ run, isMember c = true) ∧
      after.head?.any isMember = false ∧ text.takeWhile isMember = run := by
  refine ⟨text.takeWhile isMember, text.dropWhile isMember, ?_, ?_, ?_, rfl⟩
  · exact List.takeWhile_append_dropWhile.symm
  · exact fun c member => List.mem_takeWhile_imp member
  · have outside := List.head?_dropWhile_not isMember text
    cases following : (text.dropWhile isMember).head? with
    | none => rfl
    | some c => simpa [following] using outside

theorem run_length_iff {text after : List Char} :
    ((text ++ after).takeWhile isMember).length = text.length ↔
      (∀ c ∈ text, isMember c = true) ∧ after.head?.any isMember = false := by
  constructor
  · intro same
    -- Both are prefixes of the text, and they are equally long.
    have taken : (text ++ after).takeWhile isMember = text :=
      (List.prefix_of_prefix_length_le (List.takeWhile_prefix _) (List.prefix_append _ _)
        same.le).eq_of_length same
    have inside : ∀ c ∈ text, isMember c = true := by
      intro c member
      rw [← taken] at member
      exact List.mem_takeWhile_imp member
    refine ⟨inside, ?_⟩
    rw [List.takeWhile_append_of_pos inside] at taken
    cases after with
    | nil => rfl
    | cons c after =>
      by_contra held
      have held : isMember c = true := by simpa using held
      simp [held] at taken
  · rintro ⟨inside, stop⟩
    rw [takeWhile_append_of_stop inside stop]

end LexReport.Text
