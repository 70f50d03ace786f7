import LexReport.Proofs.Symbol.FirstSeen
import LexReport.Proofs.Symbol.Identifiers

/-! Identifiers after any offers of names. The names that were offered first have a record each, as
many as the limit allows; the index leads from each of them to its record and stays with it. -/

set_option autoImplicit false

namespace LexReport.Symbol.Identifiers

structure Offer where
  name : String
  line : UInt32
  deriving DecidableEq, Repr

def Offer.record (offer : Offer) : IdentifierRecord :=
  ⟨offer.name, .identifier, offer.line, "global"⟩

section Definitions

variable (limits : SymbolLimits)

def offer (identifiers : Identifiers) (offer : Offer) : Except Error Bool × Identifiers :=
  identifiers.insert limits offer.name offer.line

def after (offers : List Offer) : Identifiers :=
  offers.foldl (fun identifiers next => (identifiers.offer limits next).2) .empty

structure Answers (identifiers : Identifiers) (next : Offer) : Prop where
  added : (identifiers.offer limits next).1 = .ok true ↔
    next.name ∉ identifiers.names ∧ identifiers.size < limits.maxPlainIdentifiers
  known : (identifiers.offer limits next).1 = .ok false ↔ next.name ∈ identifiers.names
  refused : ∀ error, (identifiers.offer limits next).1 = .error error ↔
    error = .identifiersFull next.name ∧ next.name ∉ identifiers.names ∧
      limits.maxPlainIdentifiers ≤ identifiers.size
  unchanged : (identifiers.offer limits next).1 ≠ .ok true →
    (identifiers.offer limits next).2 = identifiers

structure Kept (offers : List Offer) (identifiers : Identifiers) : Prop where
  /-- The different names in the order of their first offers, as many as the limit allows. -/
  names : identifiers.names =
    (offers.map Offer.name).eraseDups.take limits.maxPlainIdentifiers
  distinct : identifiers.names.Nodup
  /-- Each record is that of the first offer of its name. -/
  records : ∀ record ∈ identifiers.records,
    (offers.find? fun other => other.name = record.name).map Offer.record = some record
  index : ∀ (name : String) (place : Nat), identifiers.index[name]? = some place ↔
    ∃ record, identifiers.records[place]? = some record ∧ record.name = name

/-- What is found under a name after some offers: the record of the offer that was accepted. -/
structure Finds (offers : List Offer) (name : String) : Prop where
  inside : ∀ place, (after limits offers).index[name]? = some place →
    place < (after limits offers).records.size
  accepted : ∀ record, (after limits offers).lookup? name = some record ↔
    ∃ earlier line later, offers = earlier ++ ⟨name, line⟩ :: later ∧
      ((after limits earlier).offer limits ⟨name, line⟩).1 = .ok true ∧
      record = Offer.record ⟨name, line⟩
  stays : ∀ record more, (after limits offers).lookup? name = some record →
    (after limits (offers ++ more)).lookup? name = some record

end Definitions

variable {limits : SymbolLimits} {offers : List Offer} {identifiers : Identifiers}

section Steps

theorem offer_cases (indexed : Indexed identifiers) (limits : SymbolLimits) (next : Offer) :
    (next.name ∈ identifiers.names ∧
      identifiers.offer limits next = (.ok false, identifiers)) ∨
    (next.name ∉ identifiers.names ∧ limits.maxPlainIdentifiers ≤ identifiers.size ∧
      identifiers.offer limits next = (.error (.identifiersFull next.name), identifiers)) ∨
    (next.name ∉ identifiers.names ∧ identifiers.size < limits.maxPlainIdentifiers ∧
      identifiers.offer limits next =
        (.ok true, ⟨identifiers.records.push next.record,
          identifiers.index.insert next.name identifiers.records.size⟩)) :=
  insert_cases indexed limits next.name next.line

theorem offer_answers (indexed : Indexed identifiers) (next : Offer) :
    Answers limits identifiers next := by
  rcases offer_cases indexed limits next with ⟨held, made⟩ | ⟨isNew, full, made⟩ |
    ⟨isNew, room, made⟩
  · constructor <;> simp [made, held]
  · constructor <;> simp [made, isNew, full, eq_comm]
  · constructor <;> simp [made, isNew, room]

structure Fed (limits : SymbolLimits) (offers : List Offer) (identifiers : Identifiers) : Prop where
  indexed : Indexed identifiers
  records : identifiers.records.toList =
    ((firsts Offer.name offers).take limits.maxPlainIdentifiers).map Offer.record

theorem Fed.names (fed : Fed limits offers identifiers) : identifiers.names =
    ((firsts Offer.name offers).take limits.maxPlainIdentifiers).map Offer.name := by
  rw [Identifiers.names, fed.records, List.map_map]
  rfl

theorem Fed.size (fed : Fed limits offers identifiers) : identifiers.size =
    min limits.maxPlainIdentifiers (firsts Offer.name offers).length := by
  rw [Identifiers.size, ← Array.length_toList, fed.records, List.length_map, List.length_take]

theorem offer_fed (fed : Fed limits offers identifiers) (next : Offer) :
    Fed limits (offers ++ [next]) (identifiers.offer limits next).2 := by
  have size := fed.size
  rcases offer_cases fed.indexed limits next with ⟨held, made⟩ | ⟨isNew, full, made⟩ |
    ⟨isNew, room, made⟩ <;> rw [made]
  · rw [fed.names] at held
    exact ⟨fed.indexed, by rw [take_firsts_of_kept (.inl held), fed.records]⟩
  · exact ⟨fed.indexed, by rw [take_firsts_of_kept (.inr (by omega)), fed.records]⟩
  · -- While there is room, all first offers have records, and the next one is put behind them.
    have whole : (firsts Offer.name offers).take limits.maxPlainIdentifiers =
        firsts Offer.name offers := List.take_of_length_le (by omega)
    refine ⟨fed.indexed.push isNew next.line, ?_⟩
    rw [fed.names, whole] at isNew
    rw [firsts_concat, keepFirst, if_neg isNew, List.take_of_length_le, Array.toList_push,
      fed.records, whole, List.map_append, List.map_singleton]
    rw [List.length_append, List.length_singleton]
    omega

end Steps

section Runs

theorem after_concat (limits : SymbolLimits) (offers : List Offer) (next : Offer) :
    after limits (offers ++ [next]) = ((after limits offers).offer limits next).2 := by
  rw [after, List.foldl_append]
  rfl

theorem after_fed (limits : SymbolLimits) (offers : List Offer) :
    Fed limits offers (after limits offers) := by
  induction offers using List.reverseRecOn with
  | nil => exact ⟨indexed_empty, by simp [after, empty]⟩
  | append_singleton offers next ih =>
    rw [after_concat]
    exact offer_fed ih next

theorem Fed.index (fed : Fed limits offers identifiers) (name : String) (place : Nat) :
    identifiers.index[name]? = some place ↔
      ∃ record, identifiers.records[place]? = some record ∧ record.name = name := by
  rw [fed.indexed, Identifiers.names, List.getElem?_map, Option.map_eq_some_iff,
    Array.getElem?_toList]

theorem Fed.kept (fed : Fed limits offers identifiers) : Kept limits offers identifiers := by
  have names : (firsts Offer.name offers).map Offer.name =
      (offers.map Offer.name).eraseDups :=
    (@map_firsts _ _ _ _ _ _ Offer.name id Offer.name (fun _ _ => Iff.rfl) offers).trans
      (firsts_id _)
  refine ⟨?_, ?_, fun record member => ?_, fed.index⟩
  · rw [fed.names, List.map_take, names]
  · rw [fed.names, List.map_take]
    exact (nodup_map_firsts Offer.name offers).sublist (List.take_sublist _ _)
  · rw [← Array.mem_toList_iff, fed.records] at member
    obtain ⟨first, kept, rfl⟩ := List.mem_map.mp member
    have found := find?_of_mem_firsts (List.mem_of_mem_take kept)
    exact congrArg (Option.map Offer.record) found

theorem Fed.lookup?_iff (fed : Fed limits offers identifiers) (name : String)
    (record : IdentifierRecord) :
    identifiers.lookup? name = some record ↔
      record ∈ identifiers.records ∧ record.name = name := by
  rw [lookup?, Option.bind_eq_bind, Option.bind_eq_some_iff]
  constructor
  · rintro ⟨place, indexed, found⟩
    obtain ⟨other, here, named⟩ := (fed.index name place).mp indexed
    obtain rfl := Option.some.inj (here.symm.trans found)
    exact ⟨Array.mem_of_getElem? found, named⟩
  · rintro ⟨member, named⟩
    obtain ⟨place, here⟩ := Array.mem_iff_getElem?.mp member
    exact ⟨place, (fed.index name place).mpr ⟨record, here, named⟩, here⟩

theorem exists_cut_concat {α : Type} {holds : List α → α → Prop} (front : List α) (last : α) :
    (∃ earlier x later, front ++ [last] = earlier ++ x :: later ∧ holds earlier x) ↔
      (∃ earlier x later, front = earlier ++ x :: later ∧ holds earlier x) ∨ holds front last := by
  constructor
  · rintro ⟨earlier, x, later, same, here⟩
    rcases List.eq_nil_or_concat later with rfl | ⟨rest, other, rfl⟩
    · obtain ⟨rfl, single⟩ := List.append_inj' same rfl
      obtain rfl := List.cons.inj single |>.1
      exact .inr here
    · rw [List.concat_eq_append, ← List.cons_append, ← List.append_assoc] at same
      obtain ⟨rfl, -⟩ := List.append_inj' same rfl
      exact .inl ⟨earlier, x, rest, rfl, here⟩
  · rintro (⟨earlier, x, later, rfl, here⟩ | here)
    · exact ⟨earlier, x, later ++ [last], by simp, here⟩
    · exact ⟨front, last, [], rfl, here⟩

theorem mem_records_iff (limits : SymbolLimits) (offers : List Offer) (record : IdentifierRecord) :
    record ∈ (after limits offers).records ↔
      ∃ earlier accepted later, offers = earlier ++ accepted :: later ∧
        ((after limits earlier).offer limits accepted).1 = .ok true ∧
        record = accepted.record := by
  induction offers using List.reverseRecOn with
  | nil => simp [after, empty]
  | append_singleton offers next ih =>
    rw [after_concat]
    have grown : record ∈ ((after limits offers).offer limits next).2.records ↔
        record ∈ (after limits offers).records ∨
          ((after limits offers).offer limits next).1 = .ok true ∧ record = next.record := by
      rcases offer_cases (after_fed limits offers).indexed limits next with ⟨-, made⟩ |
        ⟨-, -, made⟩ | ⟨-, -, made⟩ <;> simp [made]
    rw [grown, ih, exists_cut_concat]

theorem after_finds (limits : SymbolLimits) (offers : List Offer) (name : String) :
    Finds limits offers name := by
  have accepted (offers : List Offer) (record : IdentifierRecord) :
      (after limits offers).lookup? name = some record ↔
        ∃ earlier line later, offers = earlier ++ ⟨name, line⟩ :: later ∧
          ((after limits earlier).offer limits ⟨name, line⟩).1 = .ok true ∧
          record = Offer.record ⟨name, line⟩ := by
    rw [(after_fed limits offers).lookup?_iff, mem_records_iff]
    constructor
    · rintro ⟨⟨earlier, ⟨_, line⟩, later, same, added, rfl⟩, rfl⟩
      exact ⟨earlier, line, later, same, added, rfl⟩
    · rintro ⟨earlier, line, later, same, added, rfl⟩
      exact ⟨⟨earlier, _, later, same, added, rfl⟩, rfl⟩
  refine ⟨fun place indexed => ?_, accepted offers, fun record more found => ?_⟩
  · obtain ⟨record, here, -⟩ := ((after_fed limits offers).index name place).mp indexed
    exact (Array.getElem?_eq_some_iff.mp here).1
  · obtain ⟨earlier, line, later, rfl, added, same⟩ := (accepted offers record).mp found
    exact (accepted _ record).mpr ⟨earlier, line, later ++ more, by simp, added, same⟩

end Runs

/-- After any offers, the identifiers hold the names that were offered first, as many as the limit
allows, and the index leads to their records. A new name is added if there is room, and refused if
not; nothing else changes what is held. What is found under a name is the record of the one offer
that was accepted, whatever is offered later. -/
theorem identifiers_of_offers (limits : SymbolLimits) (offers : List Offer) :
    Kept limits offers (after limits offers) ∧
      (∀ next, Answers limits (after limits offers) next) ∧ ∀ name, Finds limits offers name :=
  ⟨(after_fed limits offers).kept, offer_answers (after_fed limits offers).indexed,
    after_finds limits offers⟩

end LexReport.Symbol.Identifiers
