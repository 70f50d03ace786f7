import LexReport.Proofs.Scan.Account
import LexReport.Proofs.Scan.Composition
import LexReport.Proofs.Scan.Limits
import LexReport.Proofs.Source.Snippet

/-! How a scan ends: which gaps can be shown, and when a scan has tokens, fails with an error or
breaks off in a panic. -/

set_option autoImplicit false

namespace LexReport.Scan

open Text Source

section Drawn

variable {settings : Settings}

/-- A gap in one line cannot be shown just where the numbers of its columns have wrapped, if the
number of its line has not come to zero. -/
theorem undrawn_iff_of_inLine (before : List Char) {middle rest : List Char}
    (inLine : '\n' ∉ middle) (text : String) :
    Undrawn settings (.ofText (before ++ middle ++ rest))
        ⟨⟨Position.start.after before, Position.start.after (before ++ middle)⟩, text⟩ ↔
      settings.lexical.warnOnUnmatched = true ∧
        Notice.Level.debug.isWithin settings.level = true ∧
        (Position.start.after before).line ≠ 0 ∧
        ((Position.start.after (before ++ middle)).column < (Position.start.after before).column ∨
          (Position.start.after before).column = 0) := by
  have same := (line_after_append before inLine).symm
  have number := line_after_le before
  have counted : ((Lines.ofText (before ++ middle ++ rest)).line?
      (Position.start.after before).line.toNat).isSome = true ↔
        (Position.start.after before).line ≠ 0 := by
    have total : (Lines.ofText (before ++ middle ++ rest)).count =
        (before ++ middle ++ rest).count '\n' + 1 := Lines.count_eq _
    rw [Lines.line?_isSome_iff, total, List.count_append, List.count_append, ne_eq,
      ← UInt32.toNat_inj, UInt32.toNat_zero]
    omega
  constructor
  · rintro ⟨wanted, told, fails⟩
    obtain ⟨found, wrapped⟩ := (snippet?_eq_none_iff_of_inLine same).mp fails
    exact ⟨wanted, told, counted.mp found, wrapped⟩
  · rintro ⟨wanted, told, found, wrapped⟩
    exact ⟨wanted, told, (snippet?_eq_none_iff_of_inLine same).mpr ⟨counted.mpr found, wrapped⟩⟩

theorem gapsOf_mem {pieces : List Piece} {gap : Gap} (member : gap ∈ gapsOf .start pieces) :
    ∃ before middle after, joined pieces = before ++ middle ++ after ∧
      gap = ⟨⟨Position.start.after before, Position.start.after (before ++ middle)⟩,
        String.ofList middle⟩ := by
  obtain ⟨place, text, inside, rfl⟩ := gap_of_mem member
  obtain ⟨earlier, later, rfl, rfl⟩ := located_mem inside
  refine ⟨joined earlier, text, joined later, ?_, ?_⟩
  · rw [joined_append, joined_cons, List.append_assoc]
    rfl
  · rw [Position.after_append]

/-- Whether a gap can be shown is settled by the text up to it. -/
theorem undrawn_front_iff {front rest : List Piece} {gap : Gap}
    (member : gap ∈ gapsOf .start front) :
    Undrawn settings (.ofText (joined (front ++ rest))) gap ↔
      Undrawn settings (.ofText (joined front)) gap := by
  obtain ⟨before, middle, after, text, rfl⟩ := gapsOf_mem member
  have same :=
    (snippet?_eq_none_iff_of_front before middle (after ++ joined rest) "unmatched input").trans
      (snippet?_eq_none_iff_of_front before middle after "unmatched input").symm
  rw [← List.append_assoc, ← text, ← joined_append] at same
  exact ⟨fun undrawn => ⟨undrawn.wanted, undrawn.told, same.mp undrawn.fails⟩,
    fun undrawn => ⟨undrawn.wanted, undrawn.told, same.mpr undrawn.fails⟩⟩

theorem drawn_of_short {pieces : List Piece}
    (short : byteSize (joined pieces) < UInt32.size - 1) :
    ∀ gap ∈ gapsOf .start pieces, ¬ Undrawn settings (.ofText (joined pieces)) gap := by
  rintro gap member ⟨-, -, fails⟩
  obtain ⟨before, middle, after, text, rfl⟩ := gapsOf_mem member
  rw [List.append_assoc] at text
  have shows : Shows (.ofText (joined pieces)) before middle after _ _ := shows_of_cut short text
  rw [shows.shown] at fails
  contradiction

theorem noPanic_of_drawn {lines : Lines} {pieces : List Piece}
    (drawn : ∀ gap ∈ gapsOf .start pieces, ¬ Undrawn settings lines gap) :
    NoPanic settings lines pieces := by
  rintro earlier text later rfl ⟨-, undrawn⟩
  refine drawn _ ?_ undrawn
  rw [gapsOf_append, gapsOf_cons]
  exact List.mem_append_right _ (List.mem_append_left _ (List.mem_singleton_self _))

end Drawn

section Ends

variable {settings : Settings} {text : String}

theorem noPanic_of_short (settings : Settings) {text : String}
    (short : byteSize text.toList < UInt32.size - 1) :
    NoPanic settings (.ofText text.toList) (pieces settings.grammar.rules text.toList) := by
  have drawn (cut : List Piece) (whole : joined cut = text.toList) :
      ∀ gap ∈ gapsOf .start cut, ¬ Undrawn settings (.ofText text.toList) gap := by
    rw [← whole] at short ⊢
    exact drawn_of_short short
  exact noPanic_of_drawn (drawn _ (joined_pieces settings.grammar.rules text.toList))

theorem not_panicked_of_short {settings : Settings} {text : String}
    (short : byteSize text.toList < UInt32.size - 1) :
    (scan settings text).tokens ≠ .error .panicked := by
  intro panicked
  obtain ⟨earlier, gap, later, found, -, breaksOff⟩ := (scan_panics_iff settings text).mp panicked
  exact noPanic_of_short settings short earlier gap later found breaksOff

/-- How a scan ends. It has tokens just if no lexeme breaks a limit and it breaks off at no gap. It
fails with an error just if this tells of the first lexeme that breaks a limit, and it breaks off at
no gap before. Otherwise it breaks off, which no gap of a text of less than four gigabytes makes
it. -/
theorem scan_ends_iff (settings : Settings) (text : String) :
    ((∃ tokens, (scan settings text).tokens = .ok tokens) ↔
        NoOffence settings (pieces settings.grammar.rules text.toList) ∧
          NoPanic settings (.ofText text.toList) (pieces settings.grammar.rules text.toList)) ∧
      (∀ error, (scan settings text).tokens = .error (.failed error) ↔
        ∃ earlier category lexeme, Offends settings text.toList earlier category lexeme error ∧
          NoPanic settings (.ofText text.toList) earlier) ∧
      ((scan settings text).tokens = .error .panicked ↔
        ∃ earlier gap later,
          pieces settings.grammar.rules text.toList = earlier ++ .gap gap :: later ∧
          NoOffence settings earlier ∧ BreaksOff settings (.ofText text.toList) earlier gap) ∧
      (byteSize text.toList < UInt32.size - 1 →
        NoPanic settings (.ofText text.toList) (pieces settings.grammar.rules text.toList)) := by
  refine ⟨scan_ok_iff settings text, fun error => ⟨offends_of_failed, ?_⟩,
    scan_panics_iff settings text, noPanic_of_short settings⟩
  rintro ⟨earlier, category, lexeme, offends, noPanic⟩
  obtain ⟨between, after, -, -, failed, -⟩ := offends.course noPanic
  exact failed

end Ends

section LongGap

theorem skipped_replicate (before : Option Char) (count : Nat) (after : List Char) :
    Skipped Category.all before (List.replicate count '$') after := by
  induction count generalizing before with
  | zero => trivial
  | succ count ih => exact ⟨unmatched_of_leads (by decide) _ _, ih _⟩

theorem noOffence_nil {settings : Settings} : NoOffence settings [] := by
  intro earlier category lexeme later found
  cases earlier <;> cases found

theorem noOffence_gap {settings : Settings} (text : List Char) :
    NoOffence settings [.gap text] := by
  intro earlier category lexeme later found
  cases earlier with
  | nil => cases found
  | cons piece earlier => cases earlier <;> cases found

theorem pieces_replicate {count : Nat} (filled : count ≠ 0) :
    pieces Category.all (String.ofList (List.replicate count '$')).toList =
      [.gap (List.replicate count '$')] := by
  rw [String.toList_ofList]
  exact pieces_eq_iff.mpr ⟨List.append_nil _,
    .gap (by simpa using filled) (skipped_replicate none _ _) (by simp) (.ends _)⟩

/-- The column behind so long a gap has come to zero, which is less than its first. -/
theorem breaksOff_of_wrapped {signs : List Char} (inLine : '\n' ∉ signs)
    (long : signs.length + 1 = UInt32.size) : BreaksOff {} (.ofText signs) [] signs := by
  refine ⟨by decide, ?_⟩
  have last : lastLine signs = signs := by
    have appended := lastLine_append [] inLine
    rwa [List.nil_append, EndsLine.lastLine (.inl rfl), List.nil_append] at appended
  have wrapped : (Position.start.after signs).column = 0 := by
    rw [Position.after_start, last, long]
    rfl
  have undrawn : Undrawn {} (.ofText ([] ++ signs ++ []))
      ⟨⟨Position.start.after [], Position.start.after ([] ++ signs)⟩, String.ofList signs⟩ := by
    refine (undrawn_iff_of_inLine [] inLine _).mpr ⟨rfl, rfl, by decide, .inl ?_⟩
    rw [List.nil_append, wrapped]
    decide
  rwa [List.nil_append, List.append_nil] at undrawn

-- The count stays a variable here: a text that long must not be unfolded.
theorem scan_of_wrapped {count : Nat} (long : count + 1 = UInt32.size) :
    NoOffence {} (pieces Category.all (String.ofList (List.replicate count '$')).toList) ∧
      (scan {} (String.ofList (List.replicate count '$'))).tokens = .error .panicked := by
  have filled : count ≠ 0 := by
    rintro rfl
    exact absurd long (by decide)
  have cut : pieces Category.all (String.ofList (List.replicate count '$')).toList =
      [.gap (List.replicate count '$')] := pieces_replicate filled
  refine ⟨cut ▸ noOffence_gap _, (scan_panics_iff _ _).mpr ⟨[], _, [], cut, noOffence_nil, ?_⟩⟩
  rw [String.toList_ofList]
  exact breaksOff_of_wrapped (by simp) (by rw [List.length_replicate, long])

/-- A text without any lexeme of which a scan has no tokens: it breaks off. -/
theorem scan_of_long_gap :
    NoOffence {} (pieces Category.all (String.ofList (List.replicate 4294967295 '$')).toList) ∧
      (scan {} (String.ofList (List.replicate 4294967295 '$'))).tokens = .error .panicked :=
  scan_of_wrapped rfl

theorem scan_ends_of_sign :
    byteSize (String.ofList ['$']).toList < UInt32.size - 1 ∧
      ∃ tokens, (scan {} (String.ofList ['$'])).tokens = .ok tokens := by
  have size : byteSize (String.ofList ['$']).toList < UInt32.size - 1 := by
    rw [String.toList_ofList]
    decide
  have cut : pieces Category.all (String.ofList ['$']).toList = [.gap ['$']] :=
    pieces_replicate Nat.one_ne_zero
  obtain ⟨ok, -, -, short⟩ := scan_ends_iff {} (String.ofList ['$'])
  exact ⟨size, ok.mpr ⟨cut ▸ noOffence_gap _, short size⟩⟩

end LongGap

end LexReport.Scan
