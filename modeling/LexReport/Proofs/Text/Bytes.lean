import LexReport.Text.Bytes
import Mathlib.Data.List.Basic

/-! Byte sizes add up, and a byte offset between two characters cuts a text there. -/

set_option autoImplicit false

namespace LexReport.Text

theorem foldl_utf8Size (size : Nat) (text : List Char) :
    text.foldl (fun size c => size + c.utf8Size) size = size + byteSize text := by
  induction text generalizing size with
  | nil => rfl
  | cons c text ih =>
    have whole : byteSize (c :: text) = 0 + c.utf8Size + byteSize text := ih (0 + c.utf8Size)
    rw [List.foldl_cons, ih, whole, Nat.zero_add, Nat.add_assoc]

@[simp] theorem byteSize_nil : byteSize [] = 0 := rfl

@[simp] theorem byteSize_cons (c : Char) (text : List Char) :
    byteSize (c :: text) = c.utf8Size + byteSize text := by
  rw [byteSize, List.foldl_cons, foldl_utf8Size, Nat.zero_add]

@[simp] theorem byteSize_append (first rest : List Char) :
    byteSize (first ++ rest) = byteSize first + byteSize rest := by
  rw [byteSize, List.foldl_append, foldl_utf8Size]
  rfl

@[simp] theorem byteSize_reverse (text : List Char) : byteSize text.reverse = byteSize text := by
  induction text with
  | nil => rfl
  | cons c text ih => simp [ih, Nat.add_comm]

theorem byteSize_eq_zero_iff {text : List Char} : byteSize text = 0 ↔ text = [] := by
  cases text with
  | nil => simp
  | cons c text =>
    have filled := c.utf8Size_pos
    simp only [byteSize_cons, reduceCtorEq, iff_false]
    omega

theorem byteSize_pos {text : List Char} (filled : text ≠ []) : 0 < byteSize text :=
  Nat.pos_of_ne_zero fun empty => filled (byteSize_eq_zero_iff.mp empty)

theorem utf8ByteSize_ofList (text : List Char) :
    (String.ofList text).utf8ByteSize = byteSize text := by
  induction text with
  | nil => rfl
  | cons c text ih =>
    rw [← List.singleton_append, String.ofList_append, String.utf8ByteSize_append, ih,
      byteSize_append]
    simp

theorem splitBytesOnto_append (read first rest : List Char) :
    splitBytesOnto read (byteSize first) (first ++ rest) = some (read.reverse ++ first, rest) := by
  induction first generalizing read with
  | nil => cases rest <;> simp [splitBytesOnto]
  | cons c first ih =>
    -- The size counts down by the bytes of each character, so it never falls inside of one.
    have filled := c.utf8Size_pos
    have fits : c.utf8Size ≤ byteSize (c :: first) := by simp
    have left : byteSize (c :: first) - c.utf8Size = byteSize first := by simp
    have more : byteSize (c :: first) ≠ 0 := by omega
    rw [List.cons_append, splitBytesOnto, if_neg more, if_pos fits, left, ih]
    simp

theorem splitBytes?_append (first rest : List Char) :
    splitBytes? (byteSize first) (first ++ rest) = some (first, rest) :=
  splitBytesOnto_append [] first rest

theorem splitBytesOnto_sound {read text before after : List Char} {bytes : Nat}
    (cut : splitBytesOnto read bytes text = some (before, after)) :
    ∃ first, before = read.reverse ++ first ∧ text = first ++ after ∧ byteSize first = bytes := by
  induction text generalizing read bytes with
  | nil =>
    obtain ⟨rfl, same⟩ := Option.ite_none_right_eq_some.mp cut
    obtain ⟨rfl, rfl⟩ := Prod.mk.inj (Option.some.inj same)
    exact ⟨[], by simp⟩
  | cons c rest ih =>
    rw [splitBytesOnto] at cut
    split at cut
    · rename_i done
      obtain ⟨rfl, rfl⟩ := Prod.mk.inj (Option.some.inj cut)
      exact ⟨[], by simp [done]⟩
    · obtain ⟨fits, further⟩ := Option.ite_none_right_eq_some.mp cut
      obtain ⟨first, rfl, rfl, left⟩ := ih further
      refine ⟨c :: first, by simp, rfl, ?_⟩
      rw [byteSize_cons, left]
      omega

theorem splitBytes?_eq_some_iff {bytes : Nat} {text first rest : List Char} :
    splitBytes? bytes text = some (first, rest) ↔
      text = first ++ rest ∧ byteSize first = bytes := by
  constructor
  · intro cut
    obtain ⟨read, rfl, same, size⟩ := splitBytesOnto_sound cut
    exact ⟨same, size⟩
  · rintro ⟨rfl, rfl⟩
    exact splitBytes?_append first rest

theorem sliceBytes?_append (first middle rest : List Char) :
    sliceBytes? (byteSize first) (byteSize first + byteSize middle) (first ++ (middle ++ rest)) =
      some middle := by
  -- The text is cut behind the middle first, and what lies before that once more.
  have upTo := splitBytes?_append (first ++ middle) rest
  rw [byteSize_append, List.append_assoc] at upTo
  rw [sliceBytes?, if_pos (Nat.le_add_right _ _), upTo]
  show (splitBytes? (byteSize first) (first ++ middle)).bind _ = _
  rw [splitBytes?_append]
  rfl

end LexReport.Text
