import LexReport.Proofs.Scan.Reading
import LexReport.Text.Bytes

/-! The course of a scan: at each place the first rule that reads there, or one character on. -/

set_option autoImplicit false

namespace LexReport.Scan

open Text

variable {rules : List Category} {before : Option Char} {category : Category}

/-- None of some rules reads anything at a place. -/
def Unmatched (rules : List Category) (before : Option Char) (rest : List Char) : Prop :=
  ∀ category ∈ rules, ∀ lexeme after, rest = lexeme ++ after →
    ¬ Reads category before lexeme after

/-- The first of some rules that reads at a place reads a lexeme there. -/
structure Takes (rules : List Category) (before : Option Char) (category : Category)
    (lexeme after : List Char) : Prop where
  reads : Reads category before lexeme after
  first : ∃ earlier later, rules = earlier ++ category :: later ∧
    Unmatched earlier before (lexeme ++ after)

theorem firstMatch?_eq_none_iff {rest : List Char} :
    firstMatch? rules before rest = none ↔ Unmatched rules before rest := by
  rw [firstMatch?, List.findSome?_eq_none_iff]
  simp only [Option.map_eq_none_iff, extent?_eq_none_iff]
  rfl

theorem firstMatch?_sound {rest : List Char} {length : Nat}
    (found : firstMatch? rules before rest = some (category, length)) :
    ∃ lexeme after, rest = lexeme ++ after ∧ lexeme.length = length ∧
      Takes rules before category lexeme after := by
  obtain ⟨earlier, rule, later, same, found, fails⟩ := List.findSome?_eq_some_iff.mp found
  obtain ⟨extent, measured, equal⟩ := Option.map_eq_some_iff.mp found
  obtain ⟨rfl, rfl⟩ := Prod.mk.inj equal
  obtain ⟨lexeme, after, rfl, sized, reads⟩ := extent?_sound measured
  have noEarlier : firstMatch? earlier before (lexeme ++ after) = none :=
    List.findSome?_eq_none_iff.mpr fails
  exact ⟨lexeme, after, rfl, sized, reads, earlier, later, same,
    firstMatch?_eq_none_iff.mp noEarlier⟩

theorem firstMatch?_complete {lexeme after : List Char}
    (takes : Takes rules before category lexeme after) :
    firstMatch? rules before (lexeme ++ after) = some (category, lexeme.length) := by
  obtain ⟨reads, earlier, later, rfl, noEarlier⟩ := takes
  apply List.findSome?_eq_some_iff.mpr
  refine ⟨earlier, category, later, rfl, ?_, ?_⟩
  · rw [extent?_complete reads]
    rfl
  · exact List.findSome?_eq_none_iff.mp (firstMatch?_eq_none_iff.mpr noEarlier)

theorem Takes.filled {lexeme after : List Char} (takes : Takes rules before category lexeme after) :
    lexeme ≠ [] :=
  List.length_pos_iff.mp (firstMatch?_pos (firstMatch?_complete takes))

theorem Takes.shorter {lexeme after : List Char}
    (takes : Takes rules before category lexeme after) :
    after.length < (lexeme ++ after).length := by
  have filled := List.length_pos_iff.mpr takes.filled
  rw [List.length_append]
  omega

theorem Takes.member {lexeme after : List Char} (takes : Takes rules before category lexeme after) :
    category ∈ rules := by
  obtain ⟨earlier, later, rfl, -⟩ := takes.first
  simp

theorem unmatched_nil (rules : List Category) (before : Option Char) :
    Unmatched rules before [] := by
  intro category _ lexeme after cut reads
  obtain ⟨rfl, rfl⟩ := List.append_eq_nil_iff.mp cut.symm
  exact absurd (extent?_pos (extent?_complete reads)) (Nat.lt_irrefl 0)

theorem Takes.unique {other : Category} {lexeme after otherLexeme otherAfter : List Char}
    (takes : Takes rules before category lexeme after)
    (others : Takes rules before other otherLexeme otherAfter)
    (same : lexeme ++ after = otherLexeme ++ otherAfter) :
    category = other ∧ lexeme = otherLexeme ∧ after = otherAfter := by
  have found := firstMatch?_complete takes
  rw [same, firstMatch?_complete others, Option.some.injEq, Prod.mk.injEq] at found
  obtain ⟨equal, sized⟩ := found
  exact ⟨equal.symm, List.append_inj same sized.symm⟩

theorem Takes.not_unmatched {lexeme after : List Char}
    (takes : Takes rules before category lexeme after) :
    ¬ Unmatched rules before (lexeme ++ after) := by
  intro unmatched
  have found := firstMatch?_complete takes
  rw [firstMatch?_eq_none_iff.mpr unmatched] at found
  contradiction

/-- From a place on, the lexemes that are found: their categories, and their ends as byte
offsets. -/
inductive Finds (rules : List Category) :
    Option Char → Nat → List Char → List (Category × Nat × Nat) → Prop where
  | ends (before : Option Char) (offset : Nat) : Finds rules before offset [] []
  | takes {before : Option Char} {offset : Nat} {category : Category}
      {rest lexeme after : List Char} {further : List (Category × Nat × Nat)}
      (cut : rest = lexeme ++ after)
      (taken : Takes rules before category lexeme after)
      (goesOn : Finds rules lexeme.getLast? (offset + byteSize lexeme) after further) :
      Finds rules before offset rest ((category, offset, offset + byteSize lexeme) :: further)
  | skips {before : Option Char} {offset : Nat} {c : Char} {rest : List Char}
      {further : List (Category × Nat × Nat)} (unmatched : Unmatched rules before (c :: rest))
      (goesOn : Finds rules (some c) (offset + c.utf8Size) rest further) :
      Finds rules before offset (c :: rest) further

theorem Finds.unique {offset : Nat} {rest : List Char} {found others : List (Category × Nat × Nat)}
    (finds : Finds rules before offset rest found) (again : Finds rules before offset rest others) :
    found = others := by
  induction finds generalizing others with
  | ends before offset =>
    cases again with
    | ends => rfl
    | takes cut taken goesOn => exact absurd (List.append_eq_nil_iff.mp cut.symm).1 taken.filled
  | takes cut taken goesOn ih =>
    cases again with
    | ends => exact absurd (List.append_eq_nil_iff.mp cut.symm).1 taken.filled
    | takes otherCut otherTaken otherwise =>
      obtain ⟨rfl, rfl, rfl⟩ := taken.unique otherTaken (cut.symm.trans otherCut)
      rw [ih otherwise]
    | skips unmatched otherwise => exact absurd (cut ▸ unmatched) taken.not_unmatched
  | skips unmatched goesOn ih =>
    cases again with
    | takes cut taken otherwise => exact absurd (cut ▸ unmatched) taken.not_unmatched
    | skips _ otherwise => exact ih otherwise

end LexReport.Scan
