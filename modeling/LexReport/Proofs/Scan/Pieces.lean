import LexReport.Proofs.Scan.Finding
import LexReport.Proofs.Text.Bytes
import LexReport.Scan.Piece

/-! The pieces of a text are the text, cut where the scan finds lexemes. -/

set_option autoImplicit false

namespace LexReport.Scan

open Text

variable {rules : List Category}

def joined (pieces : List Piece) : List Char := (pieces.map Piece.text).flatten

@[simp] theorem joined_nil : joined [] = [] := rfl

@[simp] theorem joined_cons (piece : Piece) (rest : List Piece) :
    joined (piece :: rest) = piece.text ++ joined rest := rfl

@[simp] theorem joined_append (first rest : List Piece) :
    joined (first ++ rest) = joined first ++ joined rest := by
  simp [joined]

/-- No rule reads anything from any character of a stretch on. -/
def Skipped (rules : List Category) : Option Char → List Char → List Char → Prop
  | _, [], _ => True
  | before, c :: text, after =>
    Unmatched rules before (c :: (text ++ after)) ∧ Skipped rules (some c) text after

theorem getLast?_cons_or (c : Char) (text : List Char) (before : Option Char) :
    (c :: text).getLast?.or before = text.getLast?.or (some c) := by
  rw [List.getLast?_cons]
  cases text.getLast? <;> rfl

theorem getLast?_append_or {first : List Char} (filled : first ≠ []) (rest : List Char)
    (before : Option Char) :
    (first ++ rest).getLast?.or before = rest.getLast?.or first.getLast? := by
  rw [List.getLast?_append, Option.or_assoc, List.getLast?_eq_some_getLast filled, Option.some_or]

theorem skipped_append {before : Option Char} {first rest after : List Char} :
    Skipped rules before (first ++ rest) after ↔
      Skipped rules before first (rest ++ after) ∧
        Skipped rules (first.getLast?.or before) rest after := by
  induction first generalizing before with
  | nil => simp [Skipped]
  | cons c first ih =>
    rw [List.cons_append, Skipped, Skipped, ih, List.append_assoc, getLast?_cons_or, and_assoc]

/-- Pieces that are cut where the rules find them: lexemes as they are taken, and between them gaps
where nothing is read. -/
inductive Cut (rules : List Category) : Option Char → List Piece → Prop where
  | ends (before : Option Char) : Cut rules before []
  | lexeme {before : Option Char} {category : Category} {text : List Char} {rest : List Piece}
      (taken : Takes rules before category text (joined rest))
      (goesOn : Cut rules text.getLast? rest) : Cut rules before (.lexeme category text :: rest)
  | gap {before : Option Char} {text : List Char} {rest : List Piece} (filled : text ≠ [])
      (skipped : Skipped rules before text (joined rest))
      (alone : ∀ other more, rest ≠ .gap other :: more) (goesOn : Cut rules text.getLast? rest) :
      Cut rules before (.gap text :: rest)

section Cutting

theorem closeGap_eq (done : List Piece) (skipped : List Char) :
    closeGap done skipped = closeGap [] skipped ++ done := by
  unfold closeGap
  split <;> rfl

theorem joined_closeGap (skipped : List Char) : joined (closeGap [] skipped) = skipped.reverse := by
  cases skipped with
  | nil => rfl
  | cons c skipped => simp [closeGap, Piece.text]

theorem reverse_closeGap (skipped : List Char) :
    (closeGap [] skipped).reverse = closeGap [] skipped := by
  unfold closeGap
  split <;> rfl

theorem cut_closeGap {start : Option Char} {skipped : List Char} {rest : List Piece}
    (unmatched : Skipped rules start skipped.reverse (joined rest))
    (alone : ∀ other more, rest ≠ .gap other :: more)
    (goesOn : Cut rules (skipped.head?.or start) rest) :
    Cut rules start (closeGap [] skipped ++ rest) := by
  cases skipped with
  | nil => exact goesOn
  | cons c skipped =>
    refine .gap (List.reverse_ne_nil_iff.mpr (List.cons_ne_nil c skipped)) unmatched alone ?_
    rw [List.getLast?_reverse]
    exact goesOn

theorem cutOnto_takes {before : Option Char} {category : Category} {lexeme after : List Char}
    (taken : Takes rules before category lexeme after) (done : List Piece) (skipped : List Char) :
    cutOnto rules done skipped before (lexeme ++ after) =
      cutOnto rules (.lexeme category lexeme :: closeGap done skipped) [] lexeme.getLast?
        after := by
  have found := firstMatch?_complete taken
  obtain ⟨c, more, same⟩ := List.exists_cons_of_ne_nil
    (List.append_ne_nil_of_left_ne_nil taken.filled after)
  rw [same] at found
  rw [same, cutOnto]
  -- The recursion carries a proof of what is measured, so it opens by cases and not by `rw`.
  split
  · rename_i other length measured
    rw [found, Option.some.injEq, Prod.mk.injEq] at measured
    obtain ⟨rfl, rfl⟩ := measured
    rw [← same]
    simp
  · rename_i measured
    rw [found] at measured
    contradiction

theorem cutOnto_skips {before : Option Char} {c : Char} {rest : List Char}
    (unmatched : Unmatched rules before (c :: rest)) (done : List Piece) (skipped : List Char) :
    cutOnto rules done skipped before (c :: rest) =
      cutOnto rules done (c :: skipped) (some c) rest := by
  have found := firstMatch?_eq_none_iff.mpr unmatched
  rw [cutOnto]
  split
  · rename_i measured
    rw [found] at measured
    contradiction
  · rfl

/-- Whatever stands before them, the pieces that are still to come are the skipped characters and
the rest, cut where the rules find them. -/
theorem cutOnto_spec (done : List Piece) (skipped rest : List Char) (start : Option Char)
    (unmatched : Skipped rules start skipped.reverse rest) :
    ∃ further, cutOnto rules done skipped (skipped.head?.or start) rest = done.reverse ++ further ∧
      joined further = skipped.reverse ++ rest ∧ Cut rules start further := by
  -- The induction is on the length of what is still to be cut. The skipped characters wait for the
  -- end of their gap, and no rule reads anything from any of them on.
  induction length : rest.length using Nat.strong_induction_on
    generalizing done skipped rest start with
  | _ bound ih =>
    subst length
    cases found : firstMatch? rules (skipped.head?.or start) rest with
    | some match_ =>
      obtain ⟨category, length⟩ := match_
      obtain ⟨lexeme, after, rfl, -, taken⟩ := firstMatch?_sound found
      obtain ⟨further, cut, same, pieces⟩ := ih _ taken.shorter
        (.lexeme category lexeme :: closeGap done skipped) [] after lexeme.getLast? trivial rfl
      refine ⟨closeGap [] skipped ++ .lexeme category lexeme :: further, ?_, ?_, ?_⟩
      · rw [cutOnto_takes taken]
        refine cut.trans ?_
        rw [closeGap_eq done, List.reverse_cons, List.reverse_append, reverse_closeGap]
        simp
      · have text : joined further = after := same
        rw [joined_append, joined_closeGap, joined_cons, text]
        rfl
      · have text : joined further = after := same
        rw [← text] at taken unmatched
        exact cut_closeGap unmatched (by simp) (.lexeme taken pieces)
    | none =>
      cases rest with
      | nil =>
        refine ⟨closeGap [] skipped, ?_, ?_, ?_⟩
        · rw [cutOnto, closeGap_eq, List.reverse_append, reverse_closeGap]
        · rw [joined_closeGap, List.append_nil]
        · have pieces := cut_closeGap unmatched (by simp) (.ends (skipped.head?.or start))
          rwa [List.append_nil] at pieces
      | cons c rest =>
        have here := firstMatch?_eq_none_iff.mp found
        -- One more character belongs to the gap.
        have longer : Skipped rules start (c :: skipped).reverse rest := by
          rw [List.reverse_cons, skipped_append]
          refine ⟨unmatched, ?_, trivial⟩
          rw [List.getLast?_reverse]
          exact here
        obtain ⟨further, cut, same, pieces⟩ := ih _ (Nat.lt_succ_self _) done (c :: skipped) rest
          start longer rfl
        refine ⟨further, ?_, ?_, pieces⟩
        · rw [cutOnto_skips here]
          exact cut
        · rw [same]
          simp

theorem cutOnto_skipped {before : Option Char} {text after : List Char}
    (unmatched : Skipped rules before text after) (done : List Piece) (skipped : List Char) :
    cutOnto rules done skipped before (text ++ after) =
      cutOnto rules done (text.reverse ++ skipped) (text.getLast?.or before) after := by
  induction text generalizing before skipped with
  | nil => rfl
  | cons c text ih =>
    rw [List.cons_append, cutOnto_skips unmatched.1, ih unmatched.2, getLast?_cons_or]
    simp

theorem cutOnto_closeGap {before : Option Char} {rest : List Piece} (cut : Cut rules before rest)
    (alone : ∀ other more, rest ≠ .gap other :: more) (done : List Piece) (skipped : List Char) :
    cutOnto rules done skipped before (joined rest) =
      cutOnto rules (closeGap done skipped) [] before (joined rest) := by
  cases cut with
  | ends => rw [joined_nil, cutOnto, cutOnto, closeGap_eq (closeGap done skipped)]; rfl
  | lexeme taken goesOn =>
    rw [joined_cons, Piece.text, cutOnto_takes taken, cutOnto_takes taken,
      closeGap_eq (closeGap done skipped)]
    rfl
  | gap => exact absurd rfl (alone _ _)

theorem cutOnto_joined {before : Option Char} {pieces : List Piece} (cut : Cut rules before pieces)
    (done : List Piece) :
    cutOnto rules done [] before (joined pieces) = done.reverse ++ pieces := by
  induction cut generalizing done with
  | ends before =>
    rw [joined_nil, cutOnto]
    exact (List.append_nil _).symm
  | @lexeme before category text rest taken goesOn ih =>
    rw [joined_cons, Piece.text, cutOnto_takes taken, ih]
    simp [closeGap]
  | @gap before text rest filled unmatched alone goesOn ih =>
    have last : text.getLast?.or before = text.getLast? := by
      rw [List.getLast?_eq_some_getLast filled, Option.some_or]
    rw [joined_cons, Piece.text, cutOnto_skipped unmatched, last, cutOnto_closeGap goesOn alone, ih]
    simp [closeGap, filled]

end Cutting

theorem joined_pieces (rules : List Category) (text : List Char) :
    joined (pieces rules text) = text := by
  obtain ⟨further, cut, same, -⟩ := @cutOnto_spec rules [] [] text none trivial
  have all : pieces rules text = further := cut
  rw [all, same]
  rfl

theorem cut_pieces (rules : List Category) (text : List Char) :
    Cut rules none (pieces rules text) := by
  obtain ⟨further, cut, -, found⟩ := @cutOnto_spec rules [] [] text none trivial
  have all : pieces rules text = further := cut
  rw [all]
  exact found

/-- The pieces of a text are the only way to cut it where the rules find lexemes. -/
theorem pieces_eq_iff {text : List Char} {cutPieces : List Piece} :
    pieces rules text = cutPieces ↔ joined cutPieces = text ∧ Cut rules none cutPieces := by
  constructor
  · rintro rfl
    exact ⟨joined_pieces rules text, cut_pieces rules text⟩
  · rintro ⟨rfl, cut⟩
    exact cutOnto_joined cut []

section Found

def allFound (offset : Nat) : List Piece → List Found
  | [] => []
  | .gap text :: rest => allFound (offset + byteSize text) rest
  | .lexeme category text :: rest =>
    ⟨category, text, offset, offset + byteSize text⟩ :: allFound (offset + byteSize text) rest

/-- The lexemes that a scan finds in a text, in order: their categories and their ends. -/
def foundIn (text : List Char) : List (Category × Nat × Nat) :=
  (allFound 0 (pieces Category.all text)).map fun found => (found.category, found.first, found.last)

theorem firstFound?_eq_head? (offset : Nat) (pieces : List Piece) :
    firstFound? offset pieces = (allFound offset pieces).head? := by
  induction pieces generalizing offset with
  | nil => rfl
  | cons piece rest ih =>
    cases piece with
    | gap text => exact ih (offset + byteSize text)
    | lexeme category text => rfl

theorem Finds.skipped {before : Option Char} {offset : Nat} {text after : List Char}
    {found : List (Category × Nat × Nat)} (unmatched : Skipped rules before text after)
    (goesOn : Finds rules (text.getLast?.or before) (offset + byteSize text) after found) :
    Finds rules before offset (text ++ after) found := by
  induction text generalizing before offset with
  | nil => exact goesOn
  | cons c text ih =>
    refine .skips unmatched.1 (ih unmatched.2 ?_)
    rw [getLast?_cons_or, byteSize_cons, ← Nat.add_assoc] at goesOn
    exact goesOn

theorem Cut.finds {before : Option Char} {pieces : List Piece} (cut : Cut rules before pieces)
    (offset : Nat) :
    Finds rules before offset (joined pieces)
      ((allFound offset pieces).map fun found => (found.category, found.first, found.last)) := by
  induction cut generalizing offset with
  | ends before => exact .ends before offset
  | lexeme taken goesOn ih => exact .takes rfl taken (ih _)
  | @gap before text rest filled unmatched alone goesOn ih =>
    have last : text.getLast?.or before = text.getLast? := by
      rw [List.getLast?_eq_some_getLast filled, Option.some_or]
    have further := ih (offset + byteSize text)
    rw [← last] at further
    exact .skipped unmatched further

theorem finds_foundIn (text : List Char) : Finds Category.all none 0 text (foundIn text) := by
  have finds := (cut_pieces Category.all text).finds 0
  rwa [joined_pieces] at finds

end Found

end LexReport.Scan
