import LexReport.Json.Printer
import Mathlib.Data.List.Basic

/-! What is written for a value, apart from what was already written when it is added. -/

set_option autoImplicit false

namespace LexReport.Json

def escapedChars (s : String) : List Char :=
  s.toList.flatMap fun c => (escapedChar c).toList

def textChars : Option String → List Char
  | some s => '"' :: (escapedChars s ++ ['"'])
  | none => ['"', '\\', 'u', 'd', '8', '0', '0', '"']

def numberChars : Option Nat → List Char
  | some n => Nat.toDigits 10 n
  | none => ['-', '1']

def Style.before (style : Style) (level : Nat) : List Char := (style.lineStart level).toList

mutual

def Value.chars (style : Style) (level : Nat) : Value → List Char
  | .null => ['n', 'u', 'l', 'l']
  | .bool true => ['t', 'r', 'u', 'e']
  | .bool false => ['f', 'a', 'l', 's', 'e']
  | .number value => numberChars value
  | .text value => textChars value
  | .array [] => ['[', ']']
  | .array (first :: rest) =>
    '[' :: (style.before (level + 1) ++ first.chars style (level + 1) ++
      itemsChars style (level + 1) rest ++ style.before level ++ [']'])
  | .object [] => ['\x7b', '\x7d']
  | .object ((name, value) :: rest) =>
    '\x7b' :: (style.before (level + 1) ++ textChars name ++ ':' :: style.afterColon.toList ++
      value.chars style (level + 1) ++ fieldsChars style (level + 1) rest ++ style.before level ++
      ['\x7d'])

def itemsChars (style : Style) (level : Nat) : List Value → List Char
  | [] => []
  | item :: rest =>
    ',' :: (style.before level ++ item.chars style level ++ itemsChars style level rest)

def fieldsChars (style : Style) (level : Nat) : List (Option String × Value) → List Char
  | [] => []
  | (name, value) :: rest =>
    ',' :: (style.before level ++ textChars name ++ ':' :: style.afterColon.toList ++
      value.chars style level ++ fieldsChars style level rest)

end

section Added

theorem toList_foldl_escapedChar (out : String) (text : List Char) :
    (text.foldl (fun out c => out ++ escapedChar c) out).toList =
      out.toList ++ text.flatMap fun c => (escapedChar c).toList := by
  induction text generalizing out with
  | nil => simp
  | cons c text ih =>
    rw [List.foldl_cons, ih, String.toList_append, List.flatMap_cons, List.append_assoc]

theorem toList_writeText (out : String) (value : Option String) :
    (writeText out value).toList = out.toList ++ textChars value := by
  cases value with
  | none => rw [writeText, String.toList_append]; rfl
  | some s =>
    rw [writeText, writeString, String.toList_append, toList_foldl_escapedChar,
      String.toList_append, textChars, escapedChars]
    simp

theorem toList_writeNumber (out : String) (value : Option Nat) :
    (writeNumber out value).toList = out.toList ++ numberChars value := by
  cases value with
  | none => rw [writeNumber, String.toList_append]; rfl
  | some n =>
    rw [writeNumber, String.toList_append, Nat.toString_eq_ofList_toDigits, String.toList_ofList]
    rfl

mutual

theorem toList_write (style : Style) : ∀ (level : Nat) (out : String) (value : Value),
    (write style level out value).toList = out.toList ++ value.chars style level
  | level, out, .null => by rw [write, String.toList_append, Value.chars]; rfl
  | level, out, .bool true => by rw [write, String.toList_append, Value.chars]; rfl
  | level, out, .bool false => by rw [write, String.toList_append, Value.chars]; rfl
  | level, out, .number value => by rw [write, toList_writeNumber, Value.chars]
  | level, out, .text value => by rw [write, toList_writeText, Value.chars]
  | level, out, .array [] => by rw [write, String.toList_append, Value.chars]; rfl
  | level, out, .array (first :: rest) => by
    rw [write, Value.chars]
    rw [String.toList_append, String.toList_append, toList_writeItems style (level + 1) _ rest,
      toList_write style (level + 1) _ first]
    simp [Style.before]
  | level, out, .object [] => by rw [write, String.toList_append, Value.chars]; rfl
  | level, out, .object ((name, value) :: rest) => by
    rw [write, Value.chars]
    rw [String.toList_append, String.toList_append, toList_writeFields style (level + 1) _ rest,
      toList_write style (level + 1) _ value]
    simp [Style.before, toList_writeText]

theorem toList_writeItems (style : Style) : ∀ (level : Nat) (out : String) (items : List Value),
    (writeItems style level out items).toList = out.toList ++ itemsChars style level items
  | level, out, [] => by rw [writeItems, itemsChars, List.append_nil]
  | level, out, item :: rest => by
    rw [writeItems, itemsChars, toList_writeItems style level _ rest,
      toList_write style level _ item]
    simp [Style.before]

theorem toList_writeFields (style : Style) : ∀ (level : Nat) (out : String)
    (fields : List (Option String × Value)),
    (writeFields style level out fields).toList = out.toList ++ fieldsChars style level fields
  | level, out, [] => by rw [writeFields, fieldsChars, List.append_nil]
  | level, out, (name, value) :: rest => by
    rw [writeFields, fieldsChars]
    rw [toList_writeFields style level _ rest, toList_write style level _ value]
    simp [Style.before, toList_writeText]

end

end Added

end LexReport.Json
