import LexReport.Proofs.Scan.Borders
import LexReport.Proofs.Scan.Pieces

/-! A text may be cut at the ends of a lexeme: the scans of the two parts make up the scan of the
text. -/

set_option autoImplicit false

namespace LexReport.Scan

open Text

variable {rules : List Category} {before : Option Char}

section Steps

variable {category : Category} {lexeme after more : List Char}

theorem unmatched_of_leads {c : Char} (noLead : ∀ category ∈ rules, leads category c = false)
    (before : Option Char) (rest : List Char) : Unmatched rules before (c :: rest) := by
  intro category member lexeme after cut reads
  obtain ⟨d, starts, leading⟩ := reads.starts
  obtain rfl : d = c := by
    rw [← List.head?_append_of_ne_nil _ reads.filled, ← cut] at starts
    exact (Option.some.inj starts).symm
  rw [noLead category member] at leading
  contradiction

theorem Unmatched.behind {rest : List Char} (unmatched : Unmatched rules before rest)
    (border : ¬ InsideWord before rest) (other : Option Char) : Unmatched rules other rest := by
  rintro category member lexeme after rfl reads
  exact unmatched category member lexeme after rfl (reads.behind border)

theorem Takes.behind (taken : Takes rules before category lexeme after) {other : Option Char}
    (border : ¬ InsideWord other (lexeme ++ after)) : Takes rules other category lexeme after := by
  obtain ⟨reads, earlier, later, same, noEarlier⟩ := taken
  exact ⟨reads.behind border, earlier, later, same,
    noEarlier.behind reads.not_insideWord_before other⟩

theorem Unmatched.shortened {kept : List Char} (unmatched : Unmatched rules before (kept ++ more))
    (border : ¬ InsideWord kept.getLast? more) : Unmatched rules before kept := by
  rintro category member lexeme after rfl reads
  -- What reads in the shorter text also reads in the whole one, though perhaps more.
  obtain ⟨longer, rest, same, again⟩ := reads.extended border
  rw [List.append_assoc] at unmatched
  exact unmatched category member longer rest same again

theorem Takes.shortened (taken : Takes rules before category lexeme (after ++ more))
    (border : ¬ InsideWord (lexeme ++ after).getLast? more) :
    Takes rules before category lexeme after := by
  obtain ⟨reads, earlier, later, same, noEarlier⟩ := taken
  rw [← List.append_assoc] at noEarlier
  exact ⟨reads.shortened border, earlier, later, same, noEarlier.shortened border⟩

end Steps

section Courses

variable {offset : Nat} {rest : List Char} {found : List (Category × Nat × Nat)}

def shifted (bytes : Nat) (found : Category × Nat × Nat) : Category × Nat × Nat :=
  (found.1, bytes + found.2.1, bytes + found.2.2)

theorem Finds.shift (finds : Finds rules before offset rest found) (bytes : Nat) :
    Finds rules before (bytes + offset) rest (found.map (shifted bytes)) := by
  induction finds with
  | ends before offset => exact .ends before _
  | takes cut taken goesOn ih =>
    rw [← Nat.add_assoc] at ih
    rw [List.map_cons, shifted, ← Nat.add_assoc]
    exact .takes cut taken ih
  | skips unmatched goesOn ih =>
    rw [← Nat.add_assoc] at ih
    exact .skips unmatched ih

theorem Finds.behind (finds : Finds rules before offset rest found) {other : Option Char}
    (border : ¬ InsideWord before rest) (otherBorder : ¬ InsideWord other rest) :
    Finds rules other offset rest found := by
  cases finds with
  | ends => exact .ends other offset
  | takes cut taken goesOn =>
    subst cut
    exact .takes rfl (taken.behind otherBorder) goesOn
  | skips unmatched goesOn => exact .skips (unmatched.behind border other) goesOn

theorem Finds.places (finds : Finds rules before offset rest found)
    {entry : Category × Nat × Nat} (member : entry ∈ found) :
    ∃ first lexeme after, rest = first ++ (lexeme ++ after) ∧
      entry.2.1 = offset + byteSize first ∧
      entry.2.2 = offset + byteSize first + byteSize lexeme := by
  induction finds with
  | ends => cases member
  | @takes before offset category rest lexeme after further cut taken goesOn ih =>
    subst cut
    rcases List.mem_cons.mp member with rfl | member
    · exact ⟨[], lexeme, after, rfl, by simp, by simp⟩
    · obtain ⟨first, other, last, rfl, starts, ends⟩ := ih member
      refine ⟨lexeme ++ first, other, last, by simp, ?_, ?_⟩
      · rw [starts, byteSize_append, Nat.add_assoc]
      · rw [ends, byteSize_append, Nat.add_assoc offset]
  | @skips before offset c rest further unmatched goesOn ih =>
    obtain ⟨first, other, last, rfl, starts, ends⟩ := ih member
    refine ⟨c :: first, other, last, rfl, ?_, ?_⟩
    · rw [starts, byteSize_cons, Nat.add_assoc]
    · rw [ends, byteSize_cons, Nat.add_assoc offset]

/-- Of two ways to cut a text, the one that cuts later goes on from the other. -/
theorem cut_later {first rest kept more : List Char} (same : first ++ rest = kept ++ more)
    (later : byteSize first ≤ byteSize kept) :
    ∃ between, kept = first ++ between ∧ rest = between ++ more := by
  rcases List.append_eq_append_iff.mp same with ⟨between, rfl, rfl⟩ | ⟨between, rfl, rfl⟩
  · exact ⟨between, rfl, rfl⟩
  · have empty : between = [] := by
      rw [byteSize_append] at later
      exact byteSize_eq_zero_iff.mp (by omega)
    subst empty
    exact ⟨[], by simp, by simp⟩

def EndsAt (found : List (Category × Nat × Nat)) (place : Nat) : Prop :=
  ∃ entry ∈ found, entry.2.1 = place ∨ entry.2.2 = place

theorem Finds.place_of_endsAt (finds : Finds rules before offset rest found) {place : Nat}
    (ends : EndsAt found place) :
    ∃ first last, rest = first ++ last ∧ place = offset + byteSize first := by
  obtain ⟨entry, member, at_⟩ := ends
  obtain ⟨first, lexeme, after, rfl, starts, stops⟩ := finds.places member
  rcases at_ with rfl | rfl
  · exact ⟨first, lexeme ++ after, rfl, starts⟩
  · refine ⟨first ++ lexeme, after, by simp, ?_⟩
    rw [stops, byteSize_append, Nat.add_assoc]

theorem Finds.le_of_endsAt (finds : Finds rules before offset rest found) {place : Nat}
    (ends : EndsAt found place) : offset ≤ place := by
  obtain ⟨first, last, -, rfl⟩ := finds.place_of_endsAt ends
  exact Nat.le_add_right _ _

theorem Finds.endsAt_later {size : Nat} (goesOn : Finds rules before (offset + size) rest found)
    {category : Category} {place : Nat}
    (ends : EndsAt ((category, offset, offset + size) :: found) place) (beyond : offset < place) :
    offset + size = place ∨ offset + size ≤ place ∧ EndsAt found place := by
  obtain ⟨entry, member, starts | stops⟩ := ends
  · rcases List.mem_cons.mp member with rfl | member
    · have here : offset = place := starts
      omega
    · have later : EndsAt found place := ⟨entry, member, .inl starts⟩
      exact .inr ⟨goesOn.le_of_endsAt later, later⟩
  · rcases List.mem_cons.mp member with rfl | member
    · exact .inl stops
    · have later : EndsAt found place := ⟨entry, member, .inr stops⟩
      exact .inr ⟨goesOn.le_of_endsAt later, later⟩

/-- Where something that is found begins or ends, there is no word around, and the course up to
there and the course from there on are those of the two parts. -/
theorem Finds.split (finds : Finds rules before offset rest found) {kept more : List Char}
    (same : rest = kept ++ more) (ends : EndsAt found (offset + byteSize kept)) :
    ¬ InsideWord (kept.getLast?.or before) more ∧
      ∃ first last, found = first ++ last ∧ Finds rules before offset kept first ∧
        Finds rules (kept.getLast?.or before) (offset + byteSize kept) more last := by
  induction finds generalizing kept with
  | ends before offset =>
    obtain ⟨entry, member, -⟩ := ends
    cases member
  | @takes before offset category rest lexeme after further cut taken goesOn ih =>
    subst cut
    by_cases here : kept = []
    · -- The cut is before this lexeme.
      subst here
      obtain rfl : lexeme ++ after = more := same
      exact ⟨taken.reads.not_insideWord_before, [], _, rfl, .ends before offset,
        .takes rfl taken goesOn⟩
    · have beyond := byteSize_pos here
      rcases goesOn.endsAt_later ends (by omega) with stops | ⟨bound, later⟩
      · -- The cut is behind this lexeme.
        obtain ⟨between, rfl, rfl⟩ := cut_later same (by omega)
        rw [byteSize_append] at stops
        obtain rfl : between = [] := byteSize_eq_zero_iff.mp (by omega)
        have border := taken.reads.not_insideWord_after
        rw [List.append_nil, List.getLast?_eq_some_getLast taken.filled, Option.some_or,
          ← List.getLast?_eq_some_getLast taken.filled]
        rw [← List.append_nil lexeme] at border
        exact ⟨taken.reads.not_insideWord_after, [_], further, rfl,
          .takes (List.append_nil lexeme).symm (taken.shortened border) (.ends _ _), goesOn⟩
      · -- The cut is further on.
        obtain ⟨between, rfl, rfl⟩ := cut_later same (by omega)
        rw [byteSize_append, ← Nat.add_assoc] at later ⊢
        rw [getLast?_append_or taken.filled]
        obtain ⟨border, first, last, rfl, front, back⟩ := ih rfl later
        have wordBorder : ¬ InsideWord (lexeme ++ between).getLast? more := by
          rwa [List.getLast?_append]
        exact ⟨border, _ :: first, last, rfl, .takes rfl (taken.shortened wordBorder) front, back⟩
  | @skips before offset c rest further unmatched goesOn ih =>
    cases kept with
    | nil =>
      -- Whatever is found further on begins behind the skipped character.
      have bound := goesOn.le_of_endsAt ends
      have size := c.utf8Size_pos
      have none : offset + byteSize [] = offset := rfl
      omega
    | cons d kept =>
      obtain ⟨rfl, rfl⟩ := List.cons.inj same
      rw [byteSize_cons, ← Nat.add_assoc] at ends ⊢
      rw [getLast?_cons_or]
      obtain ⟨border, first, last, rfl, front, back⟩ := ih rfl ends
      refine ⟨border, first, last, rfl, .skips ?_ front, back⟩
      rw [← getLast?_cons_or c kept none, Option.or_none] at border
      exact unmatched.shortened border

end Courses

/-- Where something is found to begin or end, a text falls into two that are scanned by
themselves. -/
theorem foundIn_append {first rest : List Char}
    (ends : EndsAt (foundIn (first ++ rest)) (byteSize first)) :
    foundIn (first ++ rest) = foundIn first ++ (foundIn rest).map (shifted (byteSize first)) := by
  have whole := finds_foundIn (first ++ rest)
  rw [← Nat.zero_add (byteSize first)] at ends
  obtain ⟨border, front, back, same, frontFinds, backFinds⟩ := whole.split rfl ends
  have noWord : ¬ InsideWord none rest := fun inside => Bool.false_ne_true inside.1
  have moved := (finds_foundIn rest).shift (byteSize first)
  rw [Nat.add_comm] at moved
  rw [same, frontFinds.unique (finds_foundIn first), (backFinds.behind border noWord).unique moved]

/-- The scan of a text is, at each end of what it finds and at both ends of the text, the scan of
the text before and after it the scan of the text behind. -/
theorem foundIn_split (text : List Char) (place : Nat)
    (ends : place = 0 ∨ place = byteSize text ∨ EndsAt (foundIn text) place) :
    ∃ first rest, splitBytes? place text = some (first, rest) ∧
      foundIn text = foundIn first ++ (foundIn rest).map (shifted place) := by
  have nothing : foundIn [] = [] := (finds_foundIn []).unique (.ends none 0)
  rcases ends with rfl | rfl | ends
  · refine ⟨[], text, splitBytes?_append [] text, ?_⟩
    have unmoved : shifted 0 = id := by
      funext entry
      simp [shifted]
    rw [nothing, unmoved, List.map_id, List.nil_append]
  · refine ⟨text, [], ?_, ?_⟩
    · have cut := splitBytes?_append text []
      rwa [List.append_nil] at cut
    · rw [nothing, List.map_nil, List.append_nil]
  · obtain ⟨first, rest, rfl, rfl⟩ := (finds_foundIn text).place_of_endsAt ends
    rw [Nat.zero_add] at ends ⊢
    exact ⟨first, rest, splitBytes?_append first rest, foundIn_append ends⟩

theorem foundIn_split_behind_number :
    EndsAt (foundIn ['1', '.', '5', 'b', ';']) 1 ∧
      ∃ first rest, splitBytes? 1 ['1', '.', '5', 'b', ';'] = some (first, rest) ∧
        foundIn ['1', '.', '5', 'b', ';'] = foundIn first ++ (foundIn rest).map (shifted 1) := by
  have found : foundIn ['1', '.', '5', 'b', ';'] = [(.constant, 0, 1), (.separator, 4, 5)] := by
    decide +kernel
  have ends : EndsAt (foundIn ['1', '.', '5', 'b', ';']) 1 := by
    rw [found]
    exact ⟨_, List.mem_cons_self, .inr rfl⟩
  exact ⟨ends, foundIn_split _ 1 (.inr (.inr ends))⟩

end LexReport.Scan
