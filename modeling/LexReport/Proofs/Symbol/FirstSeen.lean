import Mathlib.Data.List.Induction
import Mathlib.Data.List.Nodup

/-! Keeping what is seen first: of the elements that are offered, each key is kept once, with the
first element that has it and in the order in which the keys appear. -/

set_option autoImplicit false

namespace LexReport.Symbol

variable {α β γ δ : Type} [DecidableEq β] [DecidableEq δ]

def keepFirst (key : α → β) (kept : List α) (offered : α) : List α :=
  if key offered ∈ kept.map key then kept else kept ++ [offered]

def firsts (key : α → β) (offered : List α) : List α :=
  offered.foldl (keepFirst key) []

@[simp] theorem firsts_nil (key : α → β) : firsts key [] = [] := rfl

theorem firsts_concat (key : α → β) (offered : List α) (last : α) :
    firsts key (offered ++ [last]) = keepFirst key (firsts key offered) last := by
  rw [firsts, List.foldl_append]
  rfl

theorem mem_map_firsts (key : α → β) (offered : List α) (wanted : β) :
    wanted ∈ (firsts key offered).map key ↔ wanted ∈ offered.map key := by
  induction offered using List.reverseRecOn generalizing wanted with
  | nil => rfl
  | append_singleton offered last ih =>
    rw [firsts_concat, keepFirst, List.map_append, List.mem_append, List.map_singleton,
      List.mem_singleton]
    split
    · rename_i known
      rw [ih] at known ⊢
      exact ⟨.inl, fun offers => offers.elim id fun same => same ▸ known⟩
    · rw [List.map_append, List.mem_append, List.map_singleton, List.mem_singleton, ih]

theorem nodup_map_firsts (key : α → β) (offered : List α) :
    ((firsts key offered).map key).Nodup := by
  induction offered using List.reverseRecOn with
  | nil => exact List.nodup_nil
  | append_singleton offered last ih =>
    rw [firsts_concat, keepFirst]
    split
    · exact ih
    · rename_i isNew
      rw [List.map_append, List.map_singleton, ← List.concat_eq_append]
      exact .concat isNew ih

theorem firsts_concat_of_known {key : α → β} {offered : List α} {last : α}
    (known : key last ∈ offered.map key) : firsts key (offered ++ [last]) = firsts key offered := by
  rw [firsts_concat, keepFirst, if_pos ((mem_map_firsts key offered _).mpr known)]

theorem firsts_concat_of_new {key : α → β} {offered : List α} {last : α}
    (isNew : key last ∉ offered.map key) :
    firsts key (offered ++ [last]) = firsts key offered ++ [last] := by
  rw [firsts_concat, keepFirst, if_neg fun known => isNew ((mem_map_firsts key offered _).mp known)]

theorem firsts_front (key : α → β) (offered more : List α) :
    firsts key offered <+: firsts key (offered ++ more) := by
  induction more using List.reverseRecOn with
  | nil => simp
  | append_singleton more last ih =>
    rw [← List.append_assoc, firsts_concat, keepFirst]
    split
    · exact ih
    · exact ih.trans (List.prefix_append _ _)

/-- Under a limit nothing is put in for a key that is there, or once the limit is reached. -/
theorem take_firsts_of_kept {key : α → β} {offered : List α} {last : α} {limit : Nat}
    (kept : key last ∈ ((firsts key offered).take limit).map key ∨
      limit ≤ (firsts key offered).length) :
    (firsts key (offered ++ [last])).take limit = (firsts key offered).take limit := by
  rw [firsts_concat, keepFirst]
  split
  · rfl
  · rename_i isNew
    rcases kept with known | full
    · exact absurd (((List.take_sublist _ _).map key).subset known) isNew
    · exact List.take_append_of_le_length full

theorem find?_of_mem_firsts {key : α → β} {offered : List α} {kept : α}
    (member : kept ∈ firsts key offered) :
    offered.find? (fun other => key other = key kept) = some kept := by
  induction offered using List.reverseRecOn with
  | nil => cases member
  | append_singleton offered last ih =>
    by_cases known : key last ∈ offered.map key
    · rw [firsts_concat_of_known known] at member
      rw [List.find?_append, ih member, Option.some_or]
    · rw [firsts_concat_of_new known, List.mem_append, List.mem_singleton] at member
      rcases member with member | rfl
      · rw [List.find?_append, ih member, Option.some_or]
      · have unseen : offered.find? (fun other => key other = key kept) = none := by
          rw [List.find?_eq_none]
          intro other before same
          exact known (List.mem_map.mpr ⟨other, before, of_decide_eq_true same⟩)
        rw [List.find?_append, unseen]
        simp

/-- Keeping the first does not depend on what the elements carry besides their keys. -/
theorem map_firsts {key : α → β} {otherKey : γ → δ} {f : α → γ}
    (same : ∀ x y, otherKey (f x) = otherKey (f y) ↔ key x = key y) (offered : List α) :
    (firsts key offered).map f = firsts otherKey (offered.map f) := by
  have known (last : α) (offered : List α) :
      otherKey (f last) ∈ (offered.map f).map otherKey ↔ key last ∈ offered.map key := by
    simp only [List.mem_map, exists_exists_and_eq_and, same]
  induction offered using List.reverseRecOn with
  | nil => rfl
  | append_singleton offered last ih =>
    rw [List.map_append, List.map_singleton]
    by_cases seen : key last ∈ offered.map key
    · rw [firsts_concat_of_known seen, firsts_concat_of_known ((known last offered).mpr seen), ih]
    · rw [firsts_concat_of_new seen,
        firsts_concat_of_new fun held => seen ((known last offered).mp held), List.map_append, ih]
      rfl

/-- Of the elements that pass a test of their keys, the same are kept as if only they were
offered. -/
theorem filter_firsts {key : α → β} {test : α → Bool}
    (tests : ∀ x y, key x = key y → test x = test y) (offered : List α) :
    (firsts key offered).filter test = firsts key (offered.filter test) := by
  induction offered using List.reverseRecOn with
  | nil => rfl
  | append_singleton offered last ih =>
    have known : test last = true →
        (key last ∈ (offered.filter test).map key ↔ key last ∈ offered.map key) := by
      intro passes
      simp only [List.mem_map, List.mem_filter]
      constructor
      · rintro ⟨other, ⟨before, -⟩, same⟩
        exact ⟨other, before, same⟩
      · rintro ⟨other, before, same⟩
        exact ⟨other, ⟨before, (tests other last same).trans passes⟩, same⟩
    rw [List.filter_append]
    cases passes : test last with
    | false =>
      -- What fails the test is dropped on both sides, whether it was known or not.
      rw [List.filter_cons_of_neg (by simp [passes]), List.filter_nil, List.append_nil, ← ih,
        firsts_concat, keepFirst]
      split
      · rfl
      · rw [List.filter_append, List.filter_cons_of_neg (by simp [passes]), List.filter_nil,
          List.append_nil]
    | true =>
      rw [List.filter_cons_of_pos passes, List.filter_nil]
      by_cases seen : key last ∈ offered.map key
      · rw [firsts_concat_of_known seen, firsts_concat_of_known ((known passes).mpr seen), ih]
      · rw [firsts_concat_of_new seen,
          firsts_concat_of_new fun held => seen ((known passes).mp held), List.filter_append, ih,
          List.filter_cons_of_pos passes, List.filter_nil]

theorem firsts_id [BEq β] [LawfulBEq β] (offered : List β) :
    firsts id offered = offered.eraseDups := by
  induction offered using List.reverseRecOn with
  | nil => rfl
  | append_singleton offered last ih =>
    rw [List.eraseDups_append, ← ih]
    by_cases known : last ∈ offered
    · rw [firsts_concat_of_known (by simpa using known)]
      simp [List.removeAll, known]
    · rw [firsts_concat_of_new (by simpa using known)]
      simp [List.removeAll, known, List.eraseDups_cons]

end LexReport.Symbol
