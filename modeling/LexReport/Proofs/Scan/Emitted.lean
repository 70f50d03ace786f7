import LexReport.Proofs.Scan.Outcome
import LexReport.Proofs.Token.Form

/-! What a scan that ends well hands on, told from the pieces of its text, and where it lies. -/

set_option autoImplicit false

namespace LexReport.Scan

open Text

variable {settings : Settings} {text : String} {tokens : List Token}

theorem emitted_of_scan (ok : (scan settings text).tokens = .ok tokens) :
    tokens = tokensOf settings.grammar .start (pieces settings.grammar.rules text.toList) ∧
      (scan settings text).gathered.gaps.toList =
        (gapsOf .start (pieces settings.grammar.rules text.toList)).take
          settings.limits.lexical.maxReportedGaps := by
  obtain ⟨after, done, rfl, gathered⟩ := scan_ok ok
  obtain ⟨run, -, -⟩ := readPieces_run (sound_start settings) done
  rw [gathered]
  exact ⟨run.tokens, run.gaps⟩

/-- A short text is scanned well if every piece fits and there is room for all that the pieces
add. -/
theorem scan_succeeds {cut : List Piece}
    (same : pieces settings.grammar.rules text.toList = cut)
    (fits : ∀ piece ∈ cut, Fits settings.limits.lexical piece)
    (tokenRoom : (tokensOf settings.grammar .start cut).length ≤
      settings.limits.lexical.maxTokenCount)
    (nameRoom : (namesAfter settings.grammar [] cut).length ≤
      settings.limits.symbols.maxPlainIdentifiers)
    (short : byteSize (joined cut) < UInt32.size - 1) :
    (scan settings text).tokens = .ok (tokensOf settings.grammar .start cut) := by
  obtain ⟨after, done⟩ := readPieces_succeeds (.ofText (joined cut)) (sound_start settings) fits
    tokenRoom nameRoom (drawn_of_short short)
  rw [← same, joined_pieces] at done
  obtain ⟨ok, -⟩ := scan_of_readPieces done
  rw [ok, (emitted_of_scan ok).1, same]

section Small

theorem located_within {place : Source.Position} {piece : Piece} {pieces : List Piece}
    (member : (place, piece) ∈ located .start pieces) :
    (place.after piece.text).offset ≤ byteSize (joined pieces) := by
  obtain ⟨earlier, later, rfl, rfl⟩ := located_mem member
  have start : Source.Position.start.offset = 0 := rfl
  rw [after_offset, after_offset, start, joined_append, joined_cons, byteSize_append,
    byteSize_append]
  omega

theorem located_small {place : Source.Position} {piece : Piece} {rules : List Category}
    (small : text.utf8ByteSize < UInt64.size)
    (member : (place, piece) ∈ located .start (pieces rules text.toList)) :
    Source.Span.IsSmall ⟨place, place.after piece.text⟩ := by
  have within := located_within member
  rw [joined_pieces, ← utf8ByteSize_ofList, String.ofList_toList] at within
  have ordered : place.offset ≤ (place.after piece.text).offset := by
    rw [after_offset]
    exact Nat.le_add_right _ _
  exact ⟨(ordered.trans within).trans_lt small, within.trans_lt small⟩

theorem token_small (small : text.utf8ByteSize < UInt64.size)
    (ok : (scan settings text).tokens = .ok tokens) : ∀ token ∈ tokens, token.span.IsSmall := by
  intro token member
  rw [(emitted_of_scan ok).1] at member
  obtain ⟨place, category, lexeme, inside, -, rfl⟩ := token_of_mem member
  exact located_small small inside

theorem gap_small (small : text.utf8ByteSize < UInt64.size)
    (ok : (scan settings text).tokens = .ok tokens) :
    ∀ gap ∈ (scan settings text).gathered.gaps.toList, gap.span.IsSmall := by
  intro gap member
  rw [(emitted_of_scan ok).2] at member
  obtain ⟨place, skipped, inside, rfl⟩ := gap_of_mem (List.mem_of_mem_take member)
  exact located_small small inside

end Small

end LexReport.Scan
