import LexReport.Scan.Metrics
import Mathlib.Algebra.GroupWithZero.Nat
import Mathlib.Data.List.Induction
import Mathlib.Data.List.Nodup

/-! What a tally says of the keys that were added to it one by one. -/

set_option autoImplicit false

namespace LexReport.Scan.Tally

variable {κ : Type} [DecidableEq κ]

def ofKeys (keys : List κ) : Tally κ := keys.foldl (fun tally key => tally.add key) []

theorem ofKeys_append_singleton (keys : List κ) (key : κ) :
    ofKeys (keys ++ [key]) = (ofKeys keys).add key := by
  rw [ofKeys, List.foldl_append]
  rfl

section Lookup

theorem lookup_cons (first other : κ) (known : Nat) (rest : Tally κ) :
    List.lookup other ((first, known) :: rest) =
      if other = first then some known else rest.lookup other := by
  rw [List.lookup_cons]
  split
  · rename_i same
    rw [if_pos (eq_of_beq same)]
  · rename_i apart
    rw [if_neg (ne_of_beq_false apart)]

theorem lookup_add (tally : Tally κ) (key other : κ) :
    (tally.add key).lookup other =
      if other = key then some (tally.count key + 1) else tally.lookup other := by
  induction tally with
  | nil =>
    rw [add, lookup_cons]
    rfl
  | cons entry rest ih =>
    obtain ⟨first, known⟩ := entry
    rw [add]
    split
    · rename_i here
      subst here
      simp only [lookup_cons, count, if_true, Option.getD_some]
      split <;> rfl
    · rename_i elsewhere
      simp only [lookup_cons, count, ih, if_neg (Ne.symm elsewhere)]
      by_cases same : other = key
      · rw [if_pos same, if_neg (same ▸ Ne.symm elsewhere), if_pos same]
      · rw [if_neg same, if_neg same]

theorem lookup_ofKeys (keys : List κ) (key : κ) :
    (ofKeys keys).lookup key = if key ∈ keys then some (keys.count key) else none := by
  induction keys using List.reverseRecOn with
  | nil => rfl
  | append_singleton keys last ih =>
    rw [ofKeys_append_singleton, lookup_add, List.count_append, List.count_singleton]
    by_cases same : key = last
    · subst same
      by_cases known : key ∈ keys
      · simp [count, ih, known]
      · simp [count, ih, known, List.count_eq_zero.mpr known]
    · simp [same, Ne.symm same, ih]

end Lookup

section Keys

theorem keys_add (tally : Tally κ) (key : κ) :
    (tally.add key).map Prod.fst =
      if key ∈ tally.map Prod.fst then tally.map Prod.fst else tally.map Prod.fst ++ [key] := by
  induction tally with
  | nil => rfl
  | cons entry rest ih =>
    obtain ⟨first, known⟩ := entry
    rw [add]
    split
    · rename_i here
      simp [here]
    · rename_i elsewhere
      rw [List.map_cons, ih]
      by_cases later : key ∈ rest.map Prod.fst
      · rw [if_pos later, List.map_cons, if_pos (List.mem_cons_of_mem _ later)]
      · have absent : key ∉ first :: rest.map Prod.fst := by
          simp only [List.mem_cons, not_or]
          exact ⟨Ne.symm elsewhere, later⟩
        rw [if_neg later, List.map_cons, if_neg absent, List.cons_append]

theorem keys_nodup (keys : List κ) : ((ofKeys keys).map Prod.fst).Nodup := by
  induction keys using List.reverseRecOn with
  | nil => exact List.nodup_nil
  | append_singleton keys last ih =>
    rw [ofKeys_append_singleton, keys_add]
    split
    · exact ih
    · rename_i absent
      rw [← List.concat_eq_append]
      exact ih.concat absent

end Keys

section Total

def total (wanted : κ → Bool) (tally : Tally κ) : Nat :=
  ((tally.filter fun entry => wanted entry.1).map Prod.snd).sum

theorem total_add (wanted : κ → Bool) (tally : Tally κ) (key : κ) :
    (tally.add key).total wanted = tally.total wanted + if wanted key then 1 else 0 := by
  induction tally with
  | nil => cases isWanted : wanted key <;> simp [add, total, isWanted]
  | cons entry rest ih =>
    obtain ⟨first, known⟩ := entry
    rw [add]
    split
    · rename_i here
      subst here
      cases isWanted : wanted first <;> simp [total, isWanted, Nat.add_right_comm]
    · cases isWanted : wanted first with
      | true =>
        simp only [total, List.filter_cons, isWanted, if_true, List.map_cons, List.sum_cons]
          at ih ⊢
        rw [ih, Nat.add_assoc]
      | false =>
        simp only [total, List.filter_cons, isWanted, Bool.false_eq_true, if_false] at ih ⊢
        exact ih

theorem total_ofKeys (wanted : κ → Bool) (keys : List κ) :
    (ofKeys keys).total wanted = keys.countP wanted := by
  induction keys using List.reverseRecOn with
  | nil => rfl
  | append_singleton keys last ih =>
    rw [ofKeys_append_singleton, total_add, ih, List.countP_append, List.countP_singleton]

end Total

/-- A tally that tells of some keys how often each occurs among them, and of nothing else. -/
structure Tells (tally : Tally κ) (keys : List κ) : Prop where
  lookup : ∀ key, tally.lookup key = if key ∈ keys then some (keys.count key) else none
  /-- No key has two entries. -/
  nodup : (tally.map Prod.fst).Nodup
  total : ∀ wanted, tally.total wanted = keys.countP wanted

theorem tells_ofKeys (keys : List κ) : (ofKeys keys).Tells keys where
  lookup := lookup_ofKeys keys
  nodup := keys_nodup keys
  total wanted := total_ofKeys wanted keys

theorem Tells.count {tally : Tally κ} {keys : List κ} (tells : tally.Tells keys) (key : κ) :
    tally.count key = keys.count key := by
  rw [Tally.count, tells.lookup]
  split
  · rfl
  · rename_i absent
    exact (List.count_eq_zero.mpr absent).symm

theorem Tells.inOrder {tally : Tally κ} {keys : List κ} (tells : tally.Tells keys)
    (order : List κ) :
    tally.inOrder order =
      order.filterMap fun key => if key ∈ keys then some (key, keys.count key) else none := by
  refine List.filterMap_congr fun key _ => ?_
  rw [tells.lookup]
  split <;> rfl

theorem Tells.sum {tally : Tally κ} {keys : List κ} (tells : tally.Tells keys) :
    (tally.map Prod.snd).sum = keys.length := by
  have all := tells.total fun _ => true
  rwa [Tally.total, List.filter_eq_self.mpr fun _ _ => rfl, List.countP_true] at all

end LexReport.Scan.Tally
