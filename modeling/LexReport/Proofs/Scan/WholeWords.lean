import LexReport.Proofs.Pattern.Search
import LexReport.Proofs.Scan.Composition

/-! No word is split. Nothing that is found begins or ends between two word characters, so each run
of word characters lies in one lexeme or in one gap. -/

set_option autoImplicit false

namespace LexReport.Scan

open Text

variable {rules : List Category} {start : Option Char} {pieces : List Piece}
  {before run after : List Char}

/-- A piece holds a run that stands between two parts of a text, and begins and ends where the
pieces before and behind it do. -/
def HoldsRun (pieces : List Piece) (before run after : List Char) : Prop :=
  ∃ earlier piece later front back, pieces = earlier ++ piece :: later ∧
    piece.text = front ++ (run ++ back) ∧
    before = joined earlier ++ front ∧ after = back ++ joined later

theorem HoldsRun.behind (holds : HoldsRun pieces before run after) (piece : Piece) :
    HoldsRun (piece :: pieces) (piece.text ++ before) run after := by
  obtain ⟨earlier, held, later, front, back, rfl, text, rfl, rfl⟩ := holds
  refine ⟨piece :: earlier, held, later, front, back, rfl, text, ?_, rfl⟩
  rw [joined_cons, List.append_assoc]

theorem Cut.not_insideWord {piece : Piece} (cut : Cut rules start (piece :: pieces)) :
    ¬ InsideWord piece.text.getLast? (joined pieces) := by
  cases cut with
  | lexeme taken goesOn => exact taken.reads.not_insideWord_after
  | gap filled skipped alone goesOn =>
    -- Behind a gap the text ends, or a lexeme begins.
    cases goesOn with
    | ends => exact fun inside => Bool.false_ne_true inside.2
    | lexeme taken goesOn => exact taken.reads.not_insideWord_before
    | gap => exact absurd rfl (alone _ _)

theorem insideWord_of_run {first rest : List Char} (started : first ≠ []) (goesOn : rest ≠ [])
    (inside : ∀ c ∈ first ++ rest, isWordChar c = true) (front after : List Char) :
    InsideWord (front ++ first).getLast? (rest ++ after) := by
  rw [List.forall_mem_append] at inside
  constructor
  · rw [List.getLast?_append_of_ne_nil _ started]
    exact getLast?_of_inside started inside.1
  · rw [List.head?_append_of_ne_nil _ goesOn, List.head?_eq_some_head goesOn]
    exact inside.2 _ (List.head_mem goesOn)

theorem Cut.next {piece : Piece} (cut : Cut rules start (piece :: pieces)) :
    Cut rules piece.text.getLast? pieces := by
  cases cut with
  | lexeme taken goesOn => exact goesOn
  | gap filled skipped alone goesOn => exact goesOn

/-- The piece in which a run of word characters begins is the one in which it ends. -/
theorem Cut.holdsRun (cut : Cut rules start pieces)
    (same : joined pieces = before ++ (run ++ after)) (filled : run ≠ [])
    (inside : ∀ c ∈ run, isWordChar c = true) : HoldsRun pieces before run after := by
  induction pieces generalizing start before with
  | nil =>
    obtain ⟨-, nothing⟩ := List.append_eq_nil_iff.mp same.symm
    exact absurd (List.append_eq_nil_iff.mp nothing).1 filled
  | cons piece pieces ih =>
    rw [joined_cons] at same
    rcases List.append_eq_append_iff.mp same with ⟨more, rfl, later⟩ | ⟨part, ended, begun⟩
    · exact (ih cut.next later).behind piece
    · rcases List.append_eq_append_iff.mp begun with ⟨back, rfl, rfl⟩ | ⟨rest, rfl, further⟩
      · exact ⟨[], piece, pieces, before, back, rfl, ended, rfl, rfl⟩
      · by_cases started : part = []
        · subst started
          rw [List.append_nil] at ended
          rw [← ended, ← List.append_nil piece.text]
          exact HoldsRun.behind (ih cut.next further) piece
        · by_cases goesOn : rest = []
          · subst goesOn
            exact ⟨[], piece, pieces, before, [], rfl, by simpa using ended, rfl, further.symm⟩
          · -- The piece would end inside the run.
            have split := insideWord_of_run started goesOn inside before after
            rw [← ended, ← further] at split
            exact absurd split cut.not_insideWord

/-- A place with a word character on both sides is no end of a match. Each run of word characters
lies in one lexeme or in one gap. -/
theorem words_kept_whole (text : List Char) :
    (∀ before c d after, text = before ++ c :: d :: after → isWordChar c = true →
      isWordChar d = true →
      ¬ EndsAt (matchedRules Category.all text) (byteSize (before ++ [c]))) ∧
    ∀ before run after, text = before ++ (run ++ after) → run ≠ [] →
      (∀ c ∈ run, isWordChar c = true) →
      HoldsRun (Scan.pieces Category.all text) before run after := by
  constructor
  · rintro before c d after rfl first second ends
    have finds := finds_matchedRules (before ++ c :: d :: after)
    have cut : before ++ c :: d :: after = (before ++ [c]) ++ d :: after := by simp
    rw [← Nat.zero_add (byteSize (before ++ [c]))] at ends
    obtain ⟨border, -⟩ := finds.split cut ends
    refine border ⟨?_, second⟩
    rwa [List.getLast?_concat, Option.some_or]
  · intro before run after same filled inside
    exact (cut_pieces Category.all text).holdsRun ((joined_pieces _ _).trans same) filled inside

/-- Digits that a letter beyond ASCII follows are no number; with the point before them they stay in
one gap. -/
theorem words_kept_whole_fraction :
    let text := ['1', '2', '.', '5', 'é', ';']
    (text = ['1', '2', '.'] ++ '5' :: 'é' :: [';'] ∧ isWordChar '5' = true ∧
      isWordChar 'é' = true ∧
      ¬ EndsAt (matchedRules Category.all text) (byteSize (['1', '2', '.'] ++ ['5']))) ∧
    Scan.pieces Category.all text =
      [.lexeme .constant ['1', '2'], .gap ['.', '5', 'é'], .lexeme .separator [';']] ∧
    HoldsRun (Scan.pieces Category.all text) ['1', '2', '.'] ['5', 'é'] [';'] := by
  intro text
  obtain ⟨borders, runs⟩ := words_kept_whole text
  have digit : isWordChar '5' = true := by decide
  have letter : isWordChar 'é' = true := by decide +kernel
  have inside : ∀ c ∈ ['5', 'é'], isWordChar c = true :=
    List.forall_mem_cons.mpr ⟨digit, List.forall_mem_singleton.mpr letter⟩
  exact ⟨⟨rfl, digit, letter, borders _ _ _ _ rfl digit letter⟩, by decide +kernel,
    runs _ _ _ rfl (List.cons_ne_nil _ _) inside⟩

end LexReport.Scan
