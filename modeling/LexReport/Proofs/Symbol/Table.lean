import LexReport.Proofs.Notice.Stage
import LexReport.Proofs.Symbol.FirstSeen
import LexReport.Symbol.Table

/-! A symbol table holds the first entry that is offered for each key, as many as the limit allows.
If the limit is enforced, it is made just if all of them fit. -/

set_option autoImplicit false

namespace LexReport.Symbol

open Notice

def Entry.ofToken? (token : Token) : Option Entry :=
  (Class.ofCategory? token.category).map fun kind => ⟨token.lexeme, kind, token.span⟩

def Table.plainEntries (table : Table) : List Entry :=
  table.entries.filter (·.kind = .identifier)

theorem Class.ofCategory?_eq_identifier_iff (category : Category) :
    Class.ofCategory? category = some .identifier ↔ category = .identifier := by
  cases category <;> simp [Class.ofCategory?]

namespace Draft

variable {limits : SymbolLimits} {preferences : SymbolPreferences} {offered : List Entry}
  {draft : Draft}

/-- What holds of a draft after some entries were offered to it. -/
structure Fed (limits : SymbolLimits) (offered : List Entry) (draft : Draft) : Prop where
  keyed : ∀ key, draft.keys.contains key = true ↔ key ∈ draft.entries.toList.map Entry.key
  entries : draft.entries.toList = (firsts Entry.key offered).take limits.maxSymbolEntries

theorem fed_empty (limits : SymbolLimits) : Fed limits [] empty where
  keyed key := by simp [empty]
  entries := by simp [empty]

theorem Fed.full_iff (fed : Fed limits offered draft) :
    limits.maxSymbolEntries ≤ draft.entries.size ↔
      limits.maxSymbolEntries ≤ (firsts Entry.key offered).length := by
  rw [← Array.length_toList, fed.entries, List.length_take]
  omega

theorem Fed.entries_of_room (fed : Fed limits offered draft)
    (room : ¬ limits.maxSymbolEntries ≤ draft.entries.size) :
    draft.entries.toList = firsts Entry.key offered := by
  rw [fed.full_iff] at room
  rw [fed.entries, List.take_of_length_le (Nat.le_of_not_le room)]

def offerEntry (limits : SymbolLimits) (preferences : SymbolPreferences) (draft : Draft)
    (entry : Entry) : Offered :=
  offer limits preferences draft entry.name entry.kind entry.firstSeen

section Room

variable (limits : SymbolLimits) (preferences : SymbolPreferences)

def Lacks (draft : Draft) (entry : Entry) : Prop :=
  entry.key ∉ draft.entries.toList.map Entry.key

def IsFull (draft : Draft) : Prop :=
  limits.maxSymbolEntries ≤ draft.entries.size

def Drops (draft : Draft) (entry : Entry) : Prop :=
  draft.Lacks entry ∧ draft.IsFull limits ∧ preferences.enforceLimit = false

instance (draft : Draft) (entry : Entry) : Decidable (draft.Lacks entry) :=
  inferInstanceAs (Decidable (_ ∉ _))

instance (draft : Draft) : Decidable (draft.IsFull limits) :=
  inferInstanceAs (Decidable (_ ≤ _))

instance (draft : Draft) (entry : Entry) : Decidable (draft.Drops limits preferences entry) :=
  inferInstanceAs (Decidable (_ ∧ _ ∧ _))

end Room

theorem offerEntry_eq (entry : Entry) :
    offerEntry limits preferences draft entry =
      if draft.keys.contains entry.key then ⟨.ok false, draft, []⟩
      else if draft.IsFull limits then
        if preferences.enforceLimit then ⟨.error (.tableFull entry.name), draft, []⟩
        else
          ⟨.ok false, { draft with isTruncated := true },
            if draft.isTruncated then [] else [fullEvent limits entry.firstSeen]⟩
      else
        ⟨.ok true, { draft with
          entries := draft.entries.push entry
          keys := draft.keys.insert entry.key }, []⟩ :=
  rfl

theorem offerEntry_cases (fed : Fed limits offered draft) (preferences : SymbolPreferences)
    (entry : Entry) :
    (¬ draft.Lacks entry ∧
      offerEntry limits preferences draft entry = ⟨.ok false, draft, []⟩) ∨
    (draft.Lacks entry ∧ draft.IsFull limits ∧ preferences.enforceLimit = true ∧
      offerEntry limits preferences draft entry = ⟨.error (.tableFull entry.name), draft, []⟩) ∨
    (draft.Drops limits preferences entry ∧
      offerEntry limits preferences draft entry =
        ⟨.ok false, { draft with isTruncated := true },
          if draft.isTruncated then [] else [fullEvent limits entry.firstSeen]⟩) ∨
    (draft.Lacks entry ∧ ¬ draft.IsFull limits ∧
      offerEntry limits preferences draft entry =
        ⟨.ok true, { draft with
          entries := draft.entries.push entry
          keys := draft.keys.insert entry.key }, []⟩) := by
  -- The keys of the draft know just the entries that it was fed.
  have known : draft.keys.contains entry.key = true ↔ ¬ draft.Lacks entry := by
    rw [Lacks, not_not]
    exact fed.keyed entry.key
  rw [offerEntry_eq]
  by_cases lacks : draft.Lacks entry
  · have isNew : ¬ draft.keys.contains entry.key = true := fun held => known.mp held lacks
    rw [if_neg isNew]
    by_cases full : draft.IsFull limits
    · rw [if_pos full]
      cases strict : preferences.enforceLimit with
      | true => exact .inr (.inl ⟨lacks, full, rfl, rfl⟩)
      | false => exact .inr (.inr (.inl ⟨⟨lacks, full, strict⟩, rfl⟩))
    · exact .inr (.inr (.inr ⟨lacks, full, if_neg full⟩))
  · exact .inl ⟨lacks, if_pos (known.mpr lacks)⟩

section OneOffer

variable (fed : Fed limits offered draft) (entry : Entry)
include fed

theorem offer_fed (preferences : SymbolPreferences) :
    Fed limits (offered ++ [entry]) (offerEntry limits preferences draft entry).draft := by
  have unchanged (kept : ¬ draft.Lacks entry ∨ draft.IsFull limits) (isTruncated : Bool) :
      Fed limits (offered ++ [entry]) { draft with isTruncated } := by
    rw [Lacks, not_not, IsFull, fed.full_iff, fed.entries] at kept
    exact ⟨fed.keyed, fed.entries.trans (take_firsts_of_kept kept).symm⟩
  rcases offerEntry_cases fed preferences entry with ⟨held, made⟩ | ⟨-, full, -, made⟩ |
    ⟨⟨-, full, -⟩, made⟩ | ⟨lacks, room, made⟩ <;> rw [made]
  · exact unchanged (.inl held) _
  · exact unchanged (.inr full) _
  · exact unchanged (.inr full) _
  · have whole := fed.entries_of_room room
    have next : firsts Entry.key (offered ++ [entry]) = draft.entries.toList ++ [entry] := by
      rw [Lacks, whole] at lacks
      rw [firsts_concat, keepFirst, if_neg lacks, whole]
    constructor
    · intro key
      dsimp only
      rw [Array.toList_push, List.map_append, List.mem_append, ← fed.keyed, List.map_singleton,
        List.mem_singleton, Std.HashSet.contains_insert, Bool.or_eq_true, beq_iff_eq, or_comm,
        @eq_comm _ key]
    · rw [IsFull] at room
      rw [Array.toList_push, next, List.take_of_length_le]
      rw [List.length_append, List.length_singleton, Array.length_toList]
      omega

theorem offer_ok_iff (strict : preferences.enforceLimit = true)
    (fits : (firsts Entry.key offered).length ≤ limits.maxSymbolEntries) :
    (∃ isNew, (offerEntry limits preferences draft entry).outcome = .ok isNew) ↔
      (firsts Entry.key (offered ++ [entry])).length ≤ limits.maxSymbolEntries := by
  have held := fed.entries
  rw [List.take_of_length_le fits] at held
  rw [← held, Array.length_toList] at fits
  rw [firsts_concat, keepFirst, ← held]
  rcases offerEntry_cases fed preferences entry with ⟨known, made⟩ | ⟨lacks, full, -, made⟩ |
    ⟨⟨-, -, lenient⟩, -⟩ | ⟨lacks, room, made⟩
  · rw [made, if_pos (not_not.mp known)]
    exact iff_of_true ⟨false, rfl⟩ fits
  · rw [made, if_neg lacks, List.length_append, List.length_singleton, Array.length_toList]
    rw [IsFull] at full
    exact iff_of_false (by simp) (by omega)
  · rw [strict] at lenient
    contradiction
  · rw [made, if_neg lacks, List.length_append, List.length_singleton, Array.length_toList]
    rw [IsFull] at room
    exact iff_of_true ⟨true, rfl⟩ (by omega)

end OneOffer

theorem fill_cons_of_none {token : Token} (without : Entry.ofToken? token = none)
    (events : List Event) (rest : List Token) :
    fill limits preferences draft events (token :: rest) =
      fill limits preferences draft events rest := by
  rw [fill, Option.map_eq_none_iff.mp without]

theorem fill_cons_of_some {token : Token} {entry : Entry}
    (asked : Entry.ofToken? token = some entry) (events : List Event) (rest : List Token) :
    fill limits preferences draft events (token :: rest) =
      match offerEntry limits preferences draft entry with
      | ⟨.error error, draft, more⟩ => ⟨some error, draft, events ++ more⟩
      | ⟨.ok _, draft, more⟩ => fill limits preferences draft (events ++ more) rest := by
  obtain ⟨kind, classed, rfl⟩ := Option.map_eq_some_iff.mp asked
  rw [fill, classed]
  rfl

theorem fill_fed (fed : Fed limits offered draft) {events : List Event} {tokens : List Token}
    (done : (fill limits preferences draft events tokens).stopped = none) :
    Fed limits (offered ++ tokens.filterMap Entry.ofToken?)
      (fill limits preferences draft events tokens).draft := by
  induction tokens generalizing offered draft events with
  | nil =>
    rw [List.filterMap_nil, List.append_nil]
    exact fed
  | cons token rest ih =>
    rw [List.filterMap_cons]
    cases asked : Entry.ofToken? token with
    | none =>
      rw [fill_cons_of_none asked] at done ⊢
      exact ih fed done
    | some entry =>
      have next := offer_fed fed entry preferences
      rw [fill_cons_of_some asked] at done ⊢
      generalize offerEntry limits preferences draft entry = offer at done next
      obtain ⟨outcome, draft, more⟩ := offer
      cases outcome with
      | error error => simp at done
      | ok isNew =>
        have fedAll := ih next done
        rwa [List.append_assoc] at fedAll

/-- Under an enforced limit, a filling is not stopped just if all entries can be kept. -/
theorem fill_ends_iff (strict : preferences.enforceLimit = true) (fed : Fed limits offered draft)
    (fits : (firsts Entry.key offered).length ≤ limits.maxSymbolEntries) (events : List Event)
    (tokens : List Token) :
    (fill limits preferences draft events tokens).stopped = none ↔
      (firsts Entry.key (offered ++ tokens.filterMap Entry.ofToken?)).length ≤
        limits.maxSymbolEntries := by
  induction tokens generalizing offered draft events with
  | nil => simp [fill, fits]
  | cons token rest ih =>
    rw [List.filterMap_cons]
    cases asked : Entry.ofToken? token with
    | none =>
      rw [fill_cons_of_none asked]
      exact ih fed fits events
    | some entry =>
      have next := offer_fed fed entry preferences
      have goesOn := offer_ok_iff fed entry strict fits
      rw [fill_cons_of_some asked]
      generalize offerEntry limits preferences draft entry = offer at next goesOn
      obtain ⟨outcome, draft, more⟩ := offer
      dsimp only
      rw [List.append_cons]
      cases outcome with
      | error error =>
        -- One entry too many stays too many.
        have tooMany : ¬ (firsts Entry.key (offered ++ [entry])).length ≤
            limits.maxSymbolEntries := by
          simpa using goesOn
        have longer := (firsts_front Entry.key (offered ++ [entry])
          (rest.filterMap Entry.ofToken?)).length_le
        exact iff_of_false (by simp) (by omega)
      | ok isNew => exact ih next (goesOn.mp ⟨isNew, rfl⟩) (events ++ more)

theorem fill_ends_of_lenient (lenient : preferences.enforceLimit = false) (draft : Draft)
    (events : List Event) (tokens : List Token) :
    (fill limits preferences draft events tokens).stopped = none := by
  induction tokens generalizing draft events with
  | nil => rfl
  | cons token rest ih =>
    cases asked : Entry.ofToken? token with
    | none =>
      rw [fill_cons_of_none asked]
      exact ih draft events
    | some entry =>
      have ok : ∃ isNew, (offerEntry limits preferences draft entry).outcome = .ok isNew := by
        rw [offerEntry_eq, lenient]
        split
        · exact ⟨_, rfl⟩
        · split <;> exact ⟨_, rfl⟩
      rw [fill_cons_of_some asked]
      generalize offerEntry limits preferences draft entry = offer at ok
      obtain ⟨outcome, draft, more⟩ := offer
      obtain ⟨isNew, rfl⟩ := ok
      exact ih draft (events ++ more)

end Draft

theorem tabulate_result (limits : SymbolLimits) (preferences : SymbolPreferences)
    (tokens : List Token) :
    (tabulate limits preferences tokens).result =
      match (Draft.empty.fill limits preferences [] tokens).stopped with
      | some error => .error error
      | none => .ok (Draft.empty.fill limits preferences [] tokens).draft.table := by
  unfold tabulate
  dsimp only
  rw [Stage.bind_of_ok _ rfl, Stage.bind_of_ok _ (Stage.forM_announce _)]
  cases (Draft.empty.fill limits preferences [] tokens).stopped <;> rfl

theorem entries_of_tabulate {limits : SymbolLimits} {preferences : SymbolPreferences}
    {tokens : List Token} {table : Table}
    (ok : (tabulate limits preferences tokens).result = .ok table) :
    table.entries =
      (firsts Entry.key (tokens.filterMap Entry.ofToken?)).take limits.maxSymbolEntries := by
  rw [tabulate_result] at ok
  split at ok
  · contradiction
  · rename_i done
    obtain rfl := Except.ok.inj ok
    exact (Draft.fill_fed (Draft.fed_empty limits) done).entries

theorem mem_entries_of_tabulate {limits : SymbolLimits} {preferences : SymbolPreferences}
    {tokens : List Token} {table : Table} {entry : Entry}
    (ok : (tabulate limits preferences tokens).result = .ok table)
    (member : entry ∈ table.entries) : ∃ token ∈ tokens, Entry.ofToken? token = some entry := by
  rw [entries_of_tabulate ok] at member
  exact List.mem_filterMap.mp
    (List.mem_of_find?_eq_some (find?_of_mem_firsts (List.mem_of_mem_take member)))

theorem tabulate_ok_iff {limits : SymbolLimits} {preferences : SymbolPreferences}
    (strict : preferences.enforceLimit = true) (tokens : List Token) (table : Table) :
    (tabulate limits preferences tokens).result = .ok table ↔
      (firsts Entry.key (tokens.filterMap Entry.ofToken?)).length ≤ limits.maxSymbolEntries ∧
        table.entries = firsts Entry.key (tokens.filterMap Entry.ofToken?) := by
  have ends := Draft.fill_ends_iff strict (Draft.fed_empty limits) (Nat.zero_le _) [] tokens
  rw [List.nil_append] at ends
  constructor
  · intro ok
    have entries := entries_of_tabulate ok
    rw [tabulate_result] at ok
    split at ok
    · contradiction
    · rename_i done
      have fits := ends.mp done
      rw [List.take_of_length_le fits] at entries
      exact ⟨fits, entries⟩
  · rintro ⟨fits, entries⟩
    have done := ends.mpr fits
    have held := (Draft.fill_fed (Draft.fed_empty limits) done).entries
    rw [List.nil_append, List.take_of_length_le fits, ← entries] at held
    rw [tabulate_result, done]
    exact congrArg (Except.ok ∘ Table.mk) held

/-- Without an enforced limit a table is always made, of the first entries that fit. -/
theorem tabulate_of_lenient {limits : SymbolLimits} {preferences : SymbolPreferences}
    (lenient : preferences.enforceLimit = false) (tokens : List Token) :
    (tabulate limits preferences tokens).result =
      .ok ⟨(firsts Entry.key (tokens.filterMap Entry.ofToken?)).take limits.maxSymbolEntries⟩ := by
  have done : (Draft.empty.fill limits preferences [] tokens).stopped = none :=
    Draft.fill_ends_of_lenient lenient _ _ _
  have ok := tabulate_result limits preferences tokens
  rw [done] at ok
  rw [ok, ← entries_of_tabulate ok]

end LexReport.Symbol
