import LexReport.Proofs.Scan.Account
import LexReport.Proofs.Scan.Limits
import LexReport.Proofs.Source.Snippet

/-! Snippets of a text: what they show of any span, and of the gaps that a scan lists, which never
go on beyond a line. -/

set_option autoImplicit false

namespace LexReport.Scan

open Text Source

section Listed

variable {settings : Settings} {progress : Progress}

theorem take_gaps (settings : Settings) (progress : Progress) (category : Category)
    (lexeme : String) (span : Span) :
    (progress.take settings category lexeme span).2.gathered.gaps = progress.gathered.gaps := by
  obtain ⟨place, tokens, ⟨identifiers, metrics, gaps⟩, events⟩ := progress
  unfold Progress.take
  dsimp only
  split
  · rfl
  · split <;> rfl

theorem read_gaps (settings : Settings) (progress : Progress) (category : Category)
    (text : List Char) :
    (progress.read settings category text).2.gathered.gaps = progress.gathered.gaps := by
  cases read_course settings progress category text with
  | long measured stopped => rw [stopped]
  | other fits notPlain taken => rw [← taken, take_gaps]
  | refused fits plain refusal stopped => rw [stopped]
  | registered fits plain registration taken => rw [← taken, take_gaps]

theorem advance_gaps (settings : Settings) (lines : Lines) (progress : Progress) (piece : Piece) :
    (progress.advance settings lines piece).2.gathered.gaps.toList =
      progress.gathered.gaps.toList ++ (gap? progress.place piece).toList.take
        (settings.limits.lexical.maxReportedGaps - progress.gathered.gaps.size) := by
  cases piece with
  | gap text => exact (skip_step settings lines progress text).gaps
  | lexeme category text =>
    rw [advance_lexeme, read_gaps]
    simp [gap?]

/-- However a scan ends, it has listed the first gaps among its first pieces. -/
theorem gaps_of_scan (settings : Settings) (text : String) :
    ∃ earlier later, pieces settings.grammar.rules text.toList = earlier ++ later ∧
      (scan settings text).gathered.gaps.toList =
        (gapsOf .start earlier).take settings.limits.lexical.maxReportedGaps := by
  rw [gathered_of_scan]
  cases ended : readPieces settings (.ofText text.toList) {}
      (pieces settings.grammar.rules text.toList) with
  | mk outcome after =>
    cases outcome with
    | none =>
      obtain ⟨run, -, -⟩ := readPieces_run (sound_start settings) ended
      exact ⟨_, [], (List.append_nil _).symm, run.gaps⟩
    | some stop =>
      obtain ⟨earlier, piece, later, between, found, front, stopped⟩ := readPieces_stops ended
      obtain ⟨run, -, -⟩ := readPieces_run (sound_start settings) front
      have listed := advance_gaps settings (.ofText text.toList) between piece
      have size : between.gathered.gaps.size =
          min settings.limits.lexical.maxReportedGaps (gapsOf .start earlier).length := by
        rw [← Array.length_toList, run.gaps]
        exact List.length_take
      refine ⟨earlier ++ [piece], later, by rw [found, List.append_cons], ?_⟩
      rw [stopped, run.gaps, size, run.place] at listed
      rw [listed, gapsOf_append, gapsOf_singleton, List.take_append]
      congr 2
      omega

end Listed

section InLine

/-- A line feed is always read, so no gap holds one. -/
theorem gap_inLine {earlier later : List Piece} {text : List Char}
    (cut : Cut Category.all none (earlier ++ .gap text :: later)) : '\n' ∉ text := by
  intro feed
  obtain ⟨first, last, rfl⟩ := List.append_of_mem feed
  have reads : Reads .newline (joined earlier ++ first).getLast? ['\n'] (last ++ joined later) :=
    ⟨rfl, trivial, trivial⟩
  exact cut.unmatched_at .newline (Category.mem_all _) ['\n'] (last ++ joined later) rfl reads

variable {settings : Settings} {text : String}

/-- A gap that a scan lists is a part of its text that lies in one line, and its span is that of
this part. -/
theorem listed_gap {gap : Gap}
    (member : gap ∈ (scan { settings with grammar := .standard } text).gathered.gaps) :
    ∃ before after, text.toList = before ++ (gap.text.toList ++ after) ∧
      gap.text.toList ≠ [] ∧ '\n' ∉ gap.text.toList ∧
      gap.span = ⟨Position.start.after before,
        Position.start.after (before ++ gap.text.toList)⟩ := by
  obtain ⟨front, rest, found, listed⟩ := gaps_of_scan { settings with grammar := .standard } text
  have cut := cut_pieces Category.all text.toList
  have covers := joined_pieces Category.all text.toList
  have among : gap ∈ gapsOf .start front :=
    List.mem_of_mem_take (listed ▸ Array.mem_toList_iff.mpr member)
  obtain ⟨place, skipped, inside, rfl⟩ := gap_of_mem among
  obtain ⟨earlier, later, rfl, rfl⟩ := located_mem inside
  have found : pieces Category.all text.toList =
      earlier ++ .gap skipped :: (later ++ rest) := by
    rw [← List.cons_append, ← List.append_assoc]
    exact found
  rw [found] at cut covers
  refine ⟨joined earlier, joined (later ++ rest), ?_, ?_, ?_, ?_⟩
  · rw [← covers, joined_append, String.toList_ofList]
    rfl
  · rw [String.toList_ofList]
    exact cut.filled (.gap skipped) (by simp)
  · rw [String.toList_ofList]
    exact gap_inLine cut
  · rw [String.toList_ofList, Position.after_append]

end InLine

/-- A snippet of any span shows the line where the span starts, with a caret under each character of
its part in that line, and one if there is none. A gap that a scan lists lies in one line, and its
snippet has as many carets as it has characters. -/
theorem snippets_of_text (settings : Settings) (text : String)
    (short : byteSize text.toList < UInt32.size - 1) :
    (∀ before middle after, text.toList = before ++ (middle ++ after) →
      ∃ span, Shows (.ofText text.toList) before middle after span
        (max 1 (firstLine middle).length)) ∧
      ∀ gap ∈ (scan { settings with grammar := .standard } text).gathered.gaps,
        gap.span.first.line = gap.span.last.line ∧ '\n' ∉ gap.text.toList ∧
          ∃ before after, text.toList = before ++ (gap.text.toList ++ after) ∧
            Shows (.ofText text.toList) before gap.text.toList after gap.span gap.text.length := by
  refine ⟨fun before middle after cut => ⟨_, shows_of_cut short cut⟩, ?_⟩
  intro gap member
  obtain ⟨before, after, cut, filled, inLine, isSpan⟩ := listed_gap member
  have shows : Shows (.ofText text.toList) before gap.text.toList after _ _ :=
    shows_of_cut short cut
  have carets : max 1 (firstLine gap.text.toList).length = gap.text.length := by
    have length := List.length_pos_iff.mpr filled
    rw [firstLine_of_inLine inLine, Nat.max_eq_right length, String.length_toList]
  rw [carets, ← isSpan] at shows
  refine ⟨?_, inLine, before, after, cut, shows⟩
  rw [isSpan, Position.after_start, Position.after_start, List.count_append,
    List.count_eq_zero.mpr inLine]

theorem snippets_of_text_gap_of_two :
    byteSize (String.ofList ['é', '\n', '1', '$', '$', ';']).toList < UInt32.size - 1 ∧
      (∃ span,
        Shows (.ofText ['é', '\n', '1', '$', '$', ';']) ['é'] ['\n', '1'] ['$', '$', ';'] span 1) ∧
      ∃ before after,
        Shows (.ofText ['é', '\n', '1', '$', '$', ';']) before ['$', '$'] after
          ⟨⟨4, 2, 2⟩, ⟨6, 2, 4⟩⟩ 2 := by
  have short :
      byteSize (String.ofList ['é', '\n', '1', '$', '$', ';']).toList < UInt32.size - 1 := by
    rw [String.toList_ofList]
    decide
  have cut : pieces Category.all ['é', '\n', '1', '$', '$', ';'] =
      [.gap ['é'], .lexeme .newline ['\n'], .lexeme .constant ['1'], .gap ['$', '$'],
        .lexeme .separator [';']] := by
    decide +kernel
  have gaps : (scan {} (String.ofList ['é', '\n', '1', '$', '$', ';'])).gathered.gaps =
      #[⟨⟨⟨0, 1, 1⟩, ⟨2, 1, 2⟩⟩, "é"⟩, ⟨⟨⟨4, 2, 2⟩, ⟨6, 2, 4⟩⟩, "$$"⟩] := by
    rw [gathered_of_scan, String.toList_ofList]
    dsimp only [Grammar.standard]
    rw [cut]
    rfl
  have listed : ⟨⟨⟨4, 2, 2⟩, ⟨6, 2, 4⟩⟩, "$$"⟩ ∈
      (scan {} (String.ofList ['é', '\n', '1', '$', '$', ';'])).gathered.gaps := by
    rw [gaps]
    simp
  obtain ⟨anywhere, ofGaps⟩ := snippets_of_text {} _ short
  obtain ⟨-, -, before, after, -, shows⟩ := ofGaps _ listed
  rw [String.toList_ofList] at anywhere shows
  exact ⟨short, anywhere ['é'] ['\n', '1'] ['$', '$', ';'] rfl, before, after, shows⟩

end LexReport.Scan
