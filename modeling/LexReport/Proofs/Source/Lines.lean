import LexReport.Proofs.Source.Position
import LexReport.Proofs.Text.Runs
import LexReport.Source.Lines

/-! Where the lines of a text start, what a line is, and which place an offset has. -/

set_option autoImplicit false

namespace LexReport.Source

open Text

section Starts

def startsFrom (offset : Nat) : List Char → List LineStart
  | [] => []
  | c :: rest =>
    if c = '\n' then ⟨offset + c.utf8Size, rest⟩ :: startsFrom (offset + c.utf8Size) rest
    else startsFrom (offset + c.utf8Size) rest

theorem toList_startsOnto (starts : Array LineStart) (offset : Nat) (text : List Char) :
    (startsOnto starts offset text).toList = starts.toList ++ startsFrom offset text := by
  induction text generalizing starts offset with
  | nil => exact (List.append_nil _).symm
  | cons c rest ih =>
    rw [startsOnto, startsFrom, ih]
    split <;> simp

theorem toList_lineStarts (source : List Char) :
    (lineStarts source).toList = ⟨0, source⟩ :: startsFrom 0 source :=
  toList_startsOnto #[⟨0, source⟩] 0 source

theorem length_startsFrom (offset : Nat) (text : List Char) :
    (startsFrom offset text).length = text.count '\n' := by
  induction text generalizing offset with
  | nil => rfl
  | cons c rest ih =>
    rw [startsFrom]
    by_cases feed : c = '\n' <;> simp [feed, ih]

theorem startsFrom_cut {offset : Nat} {text : List Char} {start : LineStart}
    (member : start ∈ startsFrom offset text) :
    ∃ earlier, text = earlier ++ start.rest ∧ start.offset = offset + byteSize earlier ∧
      earlier ≠ [] := by
  induction text generalizing offset with
  | nil => cases member
  | cons c rest ih =>
    have further (later : start ∈ startsFrom (offset + c.utf8Size) rest) :
        ∃ earlier, c :: rest = earlier ++ start.rest ∧
          start.offset = offset + byteSize earlier ∧ earlier ≠ [] := by
      obtain ⟨earlier, same, place, -⟩ := ih later
      exact ⟨c :: earlier, congrArg _ same, by rw [place, byteSize_cons]; omega, by simp⟩
    rw [startsFrom] at member
    split at member
    · rcases List.mem_cons.mp member with rfl | later
      · exact ⟨[c], rfl, by simp, by simp⟩
      · exact further later
    · exact further member

theorem startsFrom_later {offset : Nat} {text : List Char} {start : LineStart}
    (member : start ∈ startsFrom offset text) : offset < start.offset := by
  obtain ⟨earlier, -, place, filled⟩ := startsFrom_cut member
  have size := byteSize_pos filled
  omega

theorem startsFrom_ascending (offset : Nat) (text : List Char) :
    (startsFrom offset text).Pairwise (·.offset < ·.offset) := by
  induction text generalizing offset with
  | nil => exact .nil
  | cons c rest ih =>
    rw [startsFrom]
    split
    · exact .cons (fun _ later => startsFrom_later later) (ih _)
    · exact ih _

theorem getElem?_startsFrom (offset : Nat) (lines rest : List Char) :
    (startsFrom offset (lines ++ '\n' :: rest))[lines.count '\n']? =
      some ⟨offset + byteSize (lines ++ ['\n']), rest⟩ := by
  induction lines generalizing offset with
  | nil => rfl
  | cons c lines ih =>
    rw [List.cons_append, startsFrom, List.cons_append, byteSize_cons, ← Nat.add_assoc]
    by_cases feed : c = '\n'
    · subst feed
      rw [if_pos rfl, List.count_cons_self, List.getElem?_cons_succ, ih]
    · rw [if_neg feed, List.count_cons_of_ne feed, ih]

end Starts

section Search

variable {starts : Array LineStart} {offset : Nat}

inductive Tells (starts : Array LineStart) (offset : Nat) : Sought → Prop where
  | found {index : Nat} (inside : index < starts.size) (same : starts[index].offset = offset) :
      Tells starts offset (.found index)
  | missing {earlier : Nat} (within : earlier ≤ starts.size)
      (smaller : ∀ index, (inside : index < starts.size) → index < earlier →
        starts[index].offset < offset)
      (larger : ∀ index, (inside : index < starts.size) → earlier ≤ index →
        offset < starts[index].offset) :
      Tells starts offset (.missing earlier)

theorem ascending_getElem (ascending : starts.toList.Pairwise (·.offset < ·.offset))
    {first second : Nat} (before : first < second) (inside : second < starts.size) :
    starts[first].offset < starts[second].offset :=
  List.pairwise_iff_getElem.mp ascending first second (by simpa using before.trans inside)
    (by simpa using inside) before

/-- The invariant of the search: what lies below the part that is left is too small, and what lies
above it is too large. -/
theorem seek_tells (ascending : starts.toList.Pairwise (·.offset < ·.offset)) (low high : Nat)
    (inside : high ≤ starts.size) (ordered : low ≤ high)
    (smaller : ∀ index, (inside : index < starts.size) → index < low →
      starts[index].offset < offset)
    (larger : ∀ index, (inside : index < starts.size) → high ≤ index →
      offset < starts[index].offset) :
    Tells starts offset (seek starts offset low high inside) := by
  fun_induction seek starts offset low high inside with
  | case1 low high inside left middle within same => exact .found within same
  | case2 low high inside left middle within other below ih =>
    refine ih (by omega) ?_ larger
    intro index indexed before
    rcases Nat.lt_or_eq_of_le (Nat.le_of_lt_succ before) with earlier | rfl
    · exact (ascending_getElem ascending earlier within).trans below
    · exact below
  | case3 low high inside left middle within other notBelow ih =>
    have above : offset < starts[middle].offset := by omega
    refine ih (by omega) smaller ?_
    intro index indexed reached
    rcases Nat.lt_or_eq_of_le reached with later | rfl
    · exact above.trans (ascending_getElem ascending later indexed)
    · exact above
  | case4 low high inside done =>
    obtain rfl : low = high := by omega
    exact .missing inside smaller larger

end Search

namespace Lines

variable (text : Lines)

theorem toList_starts : text.starts.toList = ⟨0, text.source⟩ :: startsFrom 0 text.source := by
  rw [text.indexed, toList_lineStarts]

theorem count_eq : text.count = text.source.count '\n' + 1 := by
  rw [count, ← Array.length_toList, toList_starts, List.length_cons, length_startsFrom]

theorem starts_ascending : text.starts.toList.Pairwise (·.offset < ·.offset) := by
  rw [toList_starts]
  exact .cons (fun _ later => startsFrom_later later) (startsFrom_ascending 0 text.source)

variable {text}

theorem starts_cut {start : LineStart} (member : start ∈ text.starts.toList) :
    ∃ earlier, text.source = earlier ++ start.rest ∧ byteSize earlier = start.offset := by
  rw [toList_starts] at member
  rcases List.mem_cons.mp member with rfl | later
  · exact ⟨[], rfl, rfl⟩
  · obtain ⟨earlier, same, place, -⟩ := startsFrom_cut later
    exact ⟨earlier, same, by omega⟩

theorem starts_behind {earlier rest : List Char} (cut : text.source = earlier ++ rest)
    (ends : EndsLine earlier) :
    text.starts[earlier.count '\n']? = some ⟨byteSize earlier, rest⟩ := by
  rw [← Array.getElem?_toList, toList_starts]
  rcases ends with rfl | ⟨lines, rfl⟩
  · rw [cut]
    rfl
  · rw [List.append_assoc, List.singleton_append] at cut
    rw [List.count_append, List.count_singleton_self, List.getElem?_cons_succ, cut,
      getElem?_startsFrom, Nat.zero_add]

theorem lineAt?_of_between {line offset : Nat} {start : LineStart}
    (here : text.starts[line]? = some start) (reached : start.offset ≤ offset)
    (before : ∀ next, text.starts[line + 1]? = some next → offset < next.offset) :
    text.lineAt? offset = some line := by
  obtain ⟨inside, rfl⟩ := Array.getElem?_eq_some_iff.mp here
  have ascending := text.starts_ascending
  have tells : Tells text.starts offset
      (seek text.starts offset 0 text.starts.size (Nat.le_refl _)) :=
    seek_tells ascending 0 _ _ (Nat.zero_le _) (by omega) (by omega)
  have next (inside : line + 1 < text.starts.size) : offset < text.starts[line + 1].offset :=
    before _ (Array.getElem?_eq_getElem inside)
  rw [lineAt?]
  -- What was sought is between two starts, and so are the starts of this line and the next.
  generalize seek text.starts offset 0 text.starts.size (Nat.le_refl _) = sought at tells ⊢
  cases tells with
  | @found index indexed same =>
    rcases Nat.lt_trichotomy index line with earlier | rfl | later
    · have smaller := ascending_getElem ascending earlier inside
      omega
    · rfl
    · have larger := next (by omega)
      have reached : line + 1 ≤ index := later
      rcases Nat.lt_or_eq_of_le reached with further | rfl
      · have smaller := ascending_getElem ascending further indexed
        omega
      · omega
  | @missing earlier within smaller larger =>
    have above : line < earlier := by
      by_contra outside
      have := larger line inside (by omega)
      omega
    have below : ¬ line + 1 < earlier := by
      intro within
      have := smaller (line + 1) (by omega) within
      have := next (by omega)
      omega
    obtain rfl : earlier = line + 1 := by omega
    rfl

end Lines

section LineOf

/-- A text cut into whole lines, one line more, and what follows that line. -/
structure LineOf (source earlier line later : List Char) : Prop where
  cut : source = earlier ++ (line ++ later)
  starts : EndsLine earlier
  inLine : '\n' ∉ line
  ends : later = [] ∨ ∃ more, later = '\n' :: more

theorem lineOf_cut (before after : List Char) :
    ∃ earlier later, before = earlier ++ lastLine before ∧
      LineOf (before ++ after) earlier (lastLine before ++ firstLine after) later := by
  obtain ⟨earlier, same, ends⟩ := lastLine_split before
  obtain ⟨run, later, split, inside, stop, taken⟩ := run_split (· != '\n') after
  have taken : firstLine after = run := taken
  refine ⟨earlier, later, same, ?_, ends, ?_, ?_⟩
  · rw [taken, split, List.append_assoc, ← List.append_assoc earlier, ← same]
  · rw [taken, List.mem_append, not_or]
    exact ⟨not_mem_lastLine before, fun member => by simpa using inside _ member⟩
  · cases later with
    | nil => exact .inl rfl
    | cons c more =>
      have feed : c = '\n' := by simpa using stop
      exact .inr ⟨more, by rw [feed]⟩

variable {text : Lines} {earlier line later : List Char}

theorem LineOf.count_earlier (here : LineOf text.source earlier line later) :
    (earlier ++ line).count '\n' = earlier.count '\n' := by
  rw [List.count_append, List.count_eq_zero.mpr here.inLine, Nat.add_zero]

theorem LineOf.start (here : LineOf text.source earlier line later) :
    text.starts[earlier.count '\n']? = some ⟨byteSize earlier, line ++ later⟩ :=
  Lines.starts_behind here.cut here.starts

theorem LineOf.next (here : LineOf text.source earlier line later) :
    text.starts[earlier.count '\n' + 1]? =
      later.tail?.map fun more => ⟨byteSize (earlier ++ line) + 1, more⟩ := by
  have total := here.count_earlier
  rcases here.ends with rfl | ⟨more, rfl⟩
  · have last : text.starts.size = earlier.count '\n' + 1 := by
      rw [← total, ← Lines.count, Lines.count_eq, here.cut, List.append_nil]
    exact Array.getElem?_eq_none (Nat.le_of_eq last)
  · have cut : text.source = (earlier ++ line ++ ['\n']) ++ more := by
      rw [here.cut]
      simp
    have next := Lines.starts_behind cut (.inr ⟨_, rfl⟩)
    rw [List.count_append, total, byteSize_append] at next
    exact next

/-- The offsets from the start of a line up to its end belong to the line. -/
theorem LineOf.lineAt? (here : LineOf text.source earlier line later) {offset : Nat}
    (reached : byteSize earlier ≤ offset) (within : offset ≤ byteSize (earlier ++ line)) :
    text.lineAt? offset = some (earlier.count '\n') := by
  refine Lines.lineAt?_of_between here.start reached ?_
  intro next isNext
  rw [here.next] at isNext
  obtain ⟨more, -, rfl⟩ := Option.map_eq_some_iff.mp isNext
  exact Nat.lt_succ_of_le within

theorem LineOf.lineEnd (here : LineOf text.source earlier line later) :
    text.lineEnd (earlier.count '\n') = byteSize (earlier ++ line) := by
  rw [Lines.lineEnd, here.next]
  rcases here.ends with rfl | ⟨more, rfl⟩
  · rw [here.cut, List.append_nil]
    rfl
  · rfl

theorem upTo?_append (earlier first rest : List Char) :
    LineStart.upTo? ⟨byteSize earlier, first ++ rest⟩ (byteSize (earlier ++ first)) =
      some first := by
  rw [LineStart.upTo?, byteSize_append, if_pos (Nat.le_add_right _ _), Nat.add_sub_cancel_left,
    splitBytes?_append]
  rfl

/-- A line has the number of the line feeds before it, counted from one. -/
theorem LineOf.line? (here : LineOf text.source earlier line later) :
    text.line? (earlier.count '\n' + 1) = some (String.ofList line) := by
  rw [Lines.line?, here.start, here.lineEnd]
  show (LineStart.upTo? _ _).bind _ = _
  rw [upTo?_append]
  rfl

end LineOf

namespace Lines

variable {text : Lines}

theorem line?_cut {before after : List Char} (cut : text.source = before ++ after) :
    text.line? (before.count '\n' + 1) =
      some (String.ofList (lastLine before ++ firstLine after)) := by
  obtain ⟨earlier, later, same, here⟩ := lineOf_cut before after
  rw [← cut] at here
  rw [count_feed_of_lastLine same]
  exact here.line?

theorem exists_feed {source : List Char} {number : Nat} (within : number < source.count '\n') :
    ∃ before after, source = before ++ '\n' :: after ∧ before.count '\n' = number := by
  induction source generalizing number with
  | nil => exact absurd within (Nat.not_lt_zero number)
  | cons c source ih =>
    by_cases feed : c = '\n'
    · subst feed
      cases number with
      | zero => exact ⟨[], source, rfl, rfl⟩
      | succ number =>
        rw [List.count_cons_self] at within
        obtain ⟨before, after, rfl, counted⟩ := ih (Nat.lt_of_succ_lt_succ within)
        exact ⟨'\n' :: before, after, rfl, by rw [List.count_cons_self, counted]⟩
    · rw [List.count_cons_of_ne feed] at within
      obtain ⟨before, after, rfl, counted⟩ := ih within
      exact ⟨c :: before, after, rfl, by rw [List.count_cons_of_ne feed, counted]⟩

theorem line?_eq_none_of_count {index : Nat} (behind : text.count ≤ index) :
    text.line? (index + 1) = none := by
  rw [line?, Array.getElem?_eq_none behind]
  rfl

variable (text) in
theorem line?_isSome_iff (number : Nat) :
    (text.line? number).isSome = true ↔ 1 ≤ number ∧ number ≤ text.count := by
  cases number with
  | zero => exact ⟨fun found => absurd found Bool.false_ne_true, fun counted => by omega⟩
  | succ index =>
    constructor
    · intro found
      refine ⟨Nat.le_add_left 1 index, ?_⟩
      by_contra behind
      rw [line?_eq_none_of_count (by omega)] at found
      contradiction
    · rintro ⟨-, within⟩
      rw [count_eq] at within
      rcases Nat.lt_or_eq_of_le (Nat.le_of_succ_le_succ within) with inside | last
      · obtain ⟨before, after, cut, counted⟩ := exists_feed inside
        rw [← counted, line?_cut cut]
        rfl
      · rw [last, line?_cut (List.append_nil text.source).symm]
        rfl

theorem line?_append {front rest : List Char} {number : Nat} (ends : number ≤ front.count '\n') :
    (ofText (front ++ rest)).line? number = (ofText front).line? number := by
  cases number with
  | zero => rfl
  | succ index =>
    obtain ⟨before, after, rfl, rfl⟩ := exists_feed ends
    have longer : (ofText (before ++ '\n' :: after ++ rest)).source =
        before ++ '\n' :: (after ++ rest) := List.append_assoc _ _ _
    rw [line?_cut longer, line?_cut rfl]
    rfl

theorem position?_cut {before after : List Char} (cut : text.source = before ++ after) :
    text.position? (byteSize before) = some (Position.start.after before) := by
  obtain ⟨earlier, later, same, here⟩ := lineOf_cut before after
  rw [← cut] at here
  have size : byteSize before = byteSize (earlier ++ lastLine before) := by rw [← same]
  have line : text.lineAt? (byteSize before) = some (earlier.count '\n') := by
    refine here.lineAt? ?_ ?_ <;> rw [size, byteSize_append]
    · omega
    · rw [byteSize_append, byteSize_append]
      omega
  rw [position?, line]
  show (text.starts[_]?).bind _ = _
  rw [here.start]
  show (LineStart.upTo? _ _).bind _ = _
  rw [size, List.append_assoc, upTo?_append, Position.after_start, ← size,
    count_feed_of_lastLine same]
  rfl

theorem position?_eq_some_iff {offset : Nat} {place : Position} :
    text.position? offset = some place ↔
      ∃ before after, text.source = before ++ after ∧ byteSize before = offset ∧
        place = Position.start.after before := by
  constructor
  · intro found
    obtain ⟨line, -, further⟩ := Option.bind_eq_some_iff.mp found
    obtain ⟨start, isStart, further⟩ := Option.bind_eq_some_iff.mp further
    obtain ⟨_, upTo, -⟩ := Option.bind_eq_some_iff.mp further
    obtain ⟨reached, cut⟩ := Option.ite_none_right_eq_some.mp upTo
    obtain ⟨⟨part, rest⟩, split, -⟩ := Option.map_eq_some_iff.mp cut
    obtain ⟨same, size⟩ := splitBytes?_eq_some_iff.mp split
    rw [← Array.getElem?_toList] at isStart
    obtain ⟨earlier, whole, place⟩ := starts_cut (List.mem_of_getElem? isStart)
    have between : text.source = (earlier ++ part) ++ rest := by
      rw [whole, same, List.append_assoc]
    have here : byteSize (earlier ++ part) = offset := by
      rw [byteSize_append, size, place]
      omega
    refine ⟨_, rest, between, here, ?_⟩
    rw [← here, position?_cut between] at found
    exact (Option.some.inj found).symm
  · rintro ⟨before, after, cut, rfl, rfl⟩
    exact position?_cut cut

end Lines

end LexReport.Source
