import LexReport.Files.Path

/-! The order of paths: it is total, and two paths are alike in it just if they have the same
parts. -/

set_option autoImplicit false

namespace LexReport.Files

namespace Part

def label : Part → String
  | name text => text
  | _ => ""

theorem order_eq_compareLex : order = compareLex (compareOn rank) (compareOn label) := by
  funext first second
  cases first with
  | name text =>
    cases second with
    | name other => rfl
    | root | here | parent => rfl
  | root | here | parent => cases second <;> rfl

theorem eq_of_rank_of_label {first second : Part} (rank : first.rank = second.rank)
    (label : first.label = second.label) : first = second := by
  cases first <;> cases second <;> simp_all [Part.rank, Part.label]

instance : Std.TransCmp order := by
  rw [order_eq_compareLex]
  infer_instance

instance : Std.LawfulEqCmp order where
  compare_self {part} := by
    rw [order_eq_compareLex]
    exact Std.ReflCmp.compare_self
  eq_of_compare {first second} alike := by
    rw [order_eq_compareLex, compareLex_eq_eq] at alike
    exact eq_of_rank_of_label (Std.LawfulEqOrd.eq_of_compare alike.1)
      (Std.LawfulEqOrd.eq_of_compare alike.2)

end Part

namespace Path

theorem orderParts_eq_compareLex : orderParts = List.compareLex Part.order := by
  funext first second
  induction first generalizing second with
  | nil => cases second <;> rfl
  | cons part rest ih =>
    cases second with
    | nil => rfl
    | cons other others =>
      rw [orderParts, List.compareLex_cons_cons, ih]
      cases part.order other <;> rfl

instance : Std.TransCmp orderParts := by
  rw [orderParts_eq_compareLex]
  infer_instance

instance : Std.LawfulEqCmp orderParts := by
  rw [orderParts_eq_compareLex]
  infer_instance

instance : Std.TransCmp order where
  eq_swap := by
    unfold order
    exact Std.OrientedCmp.eq_swap
  isLE_trans := by
    unfold order
    exact Std.TransCmp.isLE_trans

theorem order_eq_iff {first second : String} :
    order first second = .eq ↔ parts first = parts second := by
  rw [order]
  exact Std.LawfulEqCmp.compare_eq_iff_eq

theorem order_self (path : String) : order path path = .eq := order_eq_iff.mpr rfl

end Path

end LexReport.Files
