import LexReport.Proofs.Scan.Step

/-! A scan that ends well accounts for every character of its source: each lies in a lexeme, which
is a token or is counted as left out, or in a gap, which is counted and, up to a limit, listed. -/

set_option autoImplicit false

namespace LexReport.Scan

open Text

section Places

variable {rules : List Category} {before : Option Char} {pieces : List Piece}

theorem Cut.filled (cut : Cut rules before pieces) : ∀ piece ∈ pieces, piece.text ≠ [] := by
  induction cut with
  | ends before => simp
  | lexeme taken goesOn ih => exact List.forall_mem_cons.mpr ⟨taken.filled, ih⟩
  | gap filled skipped alone goesOn ih => exact List.forall_mem_cons.mpr ⟨filled, ih⟩

theorem Cut.behind {earlier later : List Piece} (cut : Cut rules before (earlier ++ later)) :
    Cut rules ((joined earlier).getLast?.or before) later := by
  induction earlier generalizing before with
  | nil => exact cut
  | cons piece earlier ih =>
    have filled : piece.text ≠ [] := cut.filled piece List.mem_cons_self
    rw [joined_cons, getLast?_append_or filled]
    cases cut with
    | lexeme taken goesOn => exact ih goesOn
    | gap filled skipped alone goesOn => exact ih goesOn

theorem after_offset (place : Source.Position) (text : List Char) :
    (place.after text).offset = place.offset + byteSize text := by
  induction text generalizing place with
  | nil => rfl
  | cons c text ih =>
    have next : (place.next c).offset = place.offset + c.utf8Size := by
      unfold Source.Position.next
      split <;> rfl
    rw [Source.Position.after_cons, ih, next, byteSize_cons, Nat.add_assoc]

theorem located_mem {place start : Source.Position} {piece : Piece}
    (member : (place, piece) ∈ located start pieces) :
    ∃ earlier later, pieces = earlier ++ piece :: later ∧ place = start.after (joined earlier) := by
  induction pieces generalizing start with
  | nil => cases member
  | cons first rest ih =>
    rcases List.mem_cons.mp member with same | member
    · obtain ⟨rfl, rfl⟩ := Prod.mk.inj same
      exact ⟨[], rest, rfl, rfl⟩
    · obtain ⟨earlier, later, rfl, rfl⟩ := ih member
      refine ⟨first :: earlier, later, rfl, ?_⟩
      rw [joined_cons, Source.Position.after_append]

theorem slice?_located {place : Source.Position} {piece : Piece}
    (member : (place, piece) ∈ located .start pieces) :
    Source.Span.slice? ⟨place, place.after piece.text⟩ (joined pieces) = some piece.text := by
  obtain ⟨earlier, later, rfl, rfl⟩ := located_mem member
  have first :
      (Source.Position.start.after (joined earlier)).offset = byteSize (joined earlier) := by
    rw [after_offset]
    exact Nat.zero_add _
  rw [Source.Span.slice?, after_offset (Source.Position.start.after (joined earlier)), first,
    joined_append, joined_cons]
  exact sliceBytes?_append (joined earlier) piece.text (joined later)

theorem located_ordered (start : Source.Position) (pieces : List Piece) :
    (located start pieces).Pairwise fun first second =>
      (first.1.after first.2.text).offset ≤ second.1.offset := by
  induction pieces generalizing start with
  | nil => exact .nil
  | cons piece rest ih =>
    refine .cons ?_ (ih _)
    rintro ⟨place, other⟩ member
    obtain ⟨earlier, later, rfl, rfl⟩ := located_mem member
    rw [after_offset (start.after piece.text)]
    exact Nat.le_add_right _ _

end Places

section Accounts

variable {settings : Settings}

structure Accounts (settings : Settings) (source : List Char) (pieces : List Piece)
    (tokens : List Token) (gathered : Gathered) : Prop where
  /-- Nothing is lost, and nothing is there twice. -/
  covers : joined pieces = source
  filled : ∀ piece ∈ pieces, piece.text ≠ []
  /-- Every lexeme is what the first rule that reads there takes. -/
  taken : ∀ earlier category text later, pieces = earlier ++ .lexeme category text :: later →
    Takes settings.grammar.rules (joined earlier).getLast? category text (joined later)
  /-- From no character of a gap on does any rule read anything. -/
  unmatched : ∀ earlier first c last later, pieces = earlier ++ .gap (first ++ c :: last) :: later →
    Unmatched settings.grammar.rules (joined earlier ++ first).getLast? (c :: last ++ joined later)
  apart : ∀ earlier first second later, pieces ≠ earlier ++ .gap first :: .gap second :: later
  /-- The tokens are the lexemes that are not left out, in order. -/
  emitted : tokens = tokensOf settings.grammar .start pieces
  spelled : ∀ token ∈ tokens, token.span.slice? source = some token.lexeme.toList
  ordered : tokens.Pairwise fun first second => first.span.last.offset ≤ second.span.first.offset
  increasing : ∀ token ∈ tokens, token.span.first.offset < token.span.last.offset
  kept : ∀ token ∈ tokens, token.category ∉ [.comment, .atSign, .whitespace, .newline]
  leftOut : gathered.metrics.suppressed = pieces.countP (isLeftOut settings.grammar)
  gaps : gathered.metrics.gaps = (gapsOf .start pieces).length
  gapChars : gathered.metrics.gapChars =
    ((gapsOf .start pieces).flatMap fun gap => gap.text.toList).length
  /-- The first gaps are listed, with their places and texts. -/
  listed : gathered.gaps.toList =
    (gapsOf .start pieces).take settings.limits.lexical.maxReportedGaps
  shown : ∀ gap ∈ gathered.gaps, gap.span.slice? source = some gap.text.toList

theorem token_of_mem {grammar : Grammar} {start : Source.Position} {pieces : List Piece}
    {token : Token} (member : token ∈ tokensOf grammar start pieces) :
    ∃ place category text, (place, Piece.lexeme category text) ∈ located start pieces ∧
      (finalCategory grammar category text).isSuppressed = false ∧
      token =
        ⟨finalCategory grammar category text, String.ofList text, place, place.after text⟩ := by
  obtain ⟨⟨place, piece⟩, inside, made⟩ := List.mem_filterMap.mp member
  cases piece with
  | gap text => cases made
  | lexeme category text =>
    rw [token?] at made
    obtain ⟨kept, same⟩ := Option.ite_none_left_eq_some.mp made
    exact ⟨place, category, text, inside, Bool.not_eq_true _ ▸ kept, (Option.some.inj same).symm⟩

theorem token?_span {grammar : Grammar} {place : Source.Position} {piece : Piece} {token : Token}
    (made : token? grammar place piece = some token) :
    token.span = ⟨place, place.after piece.text⟩ := by
  cases piece with
  | gap text => cases made
  | lexeme category text =>
    rw [token?] at made
    obtain ⟨-, same⟩ := Option.ite_none_left_eq_some.mp made
    rw [← Option.some.inj same]
    rfl

theorem gap_of_mem {start : Source.Position} {pieces : List Piece} {gap : Gap}
    (member : gap ∈ gapsOf start pieces) :
    ∃ place text, (place, Piece.gap text) ∈ located start pieces ∧
      gap = ⟨⟨place, place.after text⟩, String.ofList text⟩ := by
  obtain ⟨⟨place, piece⟩, inside, made⟩ := List.mem_filterMap.mp member
  cases piece with
  | lexeme category text => cases made
  | gap text => exact ⟨place, text, inside, (Option.some.inj made).symm⟩

theorem tokensOf_ordered (grammar : Grammar) (start : Source.Position) (pieces : List Piece) :
    (tokensOf grammar start pieces).Pairwise fun first second =>
      first.span.last.offset ≤ second.span.first.offset := by
  rw [tokensOf, List.pairwise_filterMap]
  refine (located_ordered start pieces).imp ?_
  intro first second before token made next madeNext
  rw [token?_span made, token?_span madeNext]
  exact before

theorem not_listed_of_kept {category : Category} (kept : category.isSuppressed = false) :
    category ∉ [.comment, .atSign, .whitespace, .newline] := by
  cases category <;> first | decide | contradiction

theorem Cut.takes_at {rules : List Category} {earlier later : List Piece} {category : Category}
    {text : List Char} (cut : Cut rules none (earlier ++ .lexeme category text :: later)) :
    Takes rules (joined earlier).getLast? category text (joined later) := by
  have behind := cut.behind
  rw [Option.or_none] at behind
  cases behind with
  | lexeme taken goesOn => exact taken

theorem Cut.unmatched_at {rules : List Category} {earlier later : List Piece}
    {first last : List Char} {c : Char}
    (cut : Cut rules none (earlier ++ .gap (first ++ c :: last) :: later)) :
    Unmatched rules (joined earlier ++ first).getLast? (c :: last ++ joined later) := by
  have behind := cut.behind
  rw [Option.or_none] at behind
  cases behind with
  | gap filled skipped alone goesOn =>
    rw [List.getLast?_append]
    exact (skipped_append.mp skipped).2.1

theorem Cut.apart {rules : List Category} {earlier later : List Piece} {first second : List Char}
    (cut : Cut rules none (earlier ++ .gap first :: .gap second :: later)) : False := by
  cases cut.behind with
  | gap filled skipped alone goesOn => exact alone second later rfl

/-- Every scan that ends well accounts for its source. -/
theorem scan_accounts {text : String} {tokens : List Token}
    (ok : (scan settings text).tokens = .ok tokens) :
    ∃ pieces, Accounts settings text.toList pieces tokens (scan settings text).gathered := by
  obtain ⟨after, done, rfl, gathered⟩ := scan_ok ok
  obtain ⟨run, -, -⟩ := readPieces_run (sound_start settings) done
  have cut := cut_pieces settings.grammar.rules text.toList
  have covers := joined_pieces settings.grammar.rules text.toList
  -- From here on all that counts of the pieces is that they cover the text and how they are cut.
  generalize pieces settings.grammar.rules text.toList = cutPieces at *
  have emitted : after.tokens.toList = tokensOf settings.grammar .start cutPieces := run.tokens
  have listed : after.gathered.gaps.toList =
      (gapsOf .start cutPieces).take settings.limits.lexical.maxReportedGaps := run.gaps
  obtain ⟨gaps, gapChars, leftOut⟩ :=
    foldl_countPiece settings.grammar settings.lexical cutPieces .start {}
  have metrics : after.gathered.metrics =
      cutPieces.foldl (countPiece settings.grammar settings.lexical) {} := run.metrics
  rw [← metrics] at gaps gapChars leftOut
  rw [← covers, gathered]
  refine ⟨cutPieces, ?_⟩
  exact {
    covers := rfl
    filled := cut.filled
    taken := by
      rintro earlier category text later rfl
      exact cut.takes_at
    unmatched := by
      rintro earlier first c last later rfl
      exact cut.unmatched_at
    apart := by
      rintro earlier first second later rfl
      exact cut.apart
    emitted := emitted
    spelled := by
      intro token member
      rw [emitted] at member
      obtain ⟨place, category, text, inside, -, rfl⟩ := token_of_mem member
      rw [String.toList_ofList]
      exact slice?_located inside
    ordered := by
      rw [emitted]
      exact tokensOf_ordered settings.grammar .start cutPieces
    increasing := by
      intro token member
      rw [emitted] at member
      obtain ⟨place, category, text, inside, -, rfl⟩ := token_of_mem member
      obtain ⟨earlier, later, rfl, -⟩ := located_mem inside
      have filled := byteSize_pos (cut.filled (.lexeme category text) (by simp))
      show place.offset < (place.after text).offset
      rw [after_offset]
      exact Nat.lt_add_of_pos_right filled
    kept := by
      intro token member
      rw [emitted] at member
      obtain ⟨place, category, text, -, kept, rfl⟩ := token_of_mem member
      exact not_listed_of_kept kept
    leftOut := leftOut.trans (Nat.zero_add _)
    gaps := gaps.trans (Nat.zero_add _)
    gapChars := gapChars.trans (Nat.zero_add _)
    listed := listed
    shown := by
      intro gap member
      have among : gap ∈ gapsOf .start cutPieces :=
        List.mem_of_mem_take (listed ▸ Array.mem_toList_iff.mpr member)
      obtain ⟨place, text, inside, rfl⟩ := gap_of_mem among
      rw [String.toList_ofList]
      exact slice?_located inside }

theorem scan_accounts_for_gap :
    (scan {} (String.ofList ['1', ' ', '$', ';'])).tokens =
        .ok [⟨.constant, "1", ⟨0, 1, 1⟩, ⟨1, 1, 2⟩⟩, ⟨.separator, ";", ⟨3, 1, 4⟩, ⟨4, 1, 5⟩⟩] ∧
      ∃ pieces, Accounts {} (String.ofList ['1', ' ', '$', ';']).toList pieces
        [⟨.constant, "1", ⟨0, 1, 1⟩, ⟨1, 1, 2⟩⟩, ⟨.separator, ";", ⟨3, 1, 4⟩, ⟨4, 1, 5⟩⟩]
        (scan {} (String.ofList ['1', ' ', '$', ';'])).gathered := by
  have cut : pieces Category.all ['1', ' ', '$', ';'] =
      [.lexeme .constant ['1'], .lexeme .whitespace [' '], .gap ['$'],
        .lexeme .separator [';']] := by
    decide +kernel
  have ok : (scan {} (String.ofList ['1', ' ', '$', ';'])).tokens =
      .ok [⟨.constant, "1", ⟨0, 1, 1⟩, ⟨1, 1, 2⟩⟩, ⟨.separator, ";", ⟨3, 1, 4⟩, ⟨4, 1, 5⟩⟩] := by
    unfold scan
    rw [String.toList_ofList]
    dsimp only [Grammar.standard]
    rw [cut]
    rfl
  exact ⟨ok, scan_accounts ok⟩

end Accounts

end LexReport.Scan
