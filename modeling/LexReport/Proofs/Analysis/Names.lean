import LexReport.Proofs.Analysis.Findings
import LexReport.Proofs.Scan.Emitted
import LexReport.Proofs.Scan.Reprint
import LexReport.Proofs.Scan.Words

/-! A lexeme has the same category in every text and at every place, so a symbol table does not list
a name under two classes. -/

set_option autoImplicit false

namespace LexReport

namespace Scan

variable {grammar : Grammar} {text other : List Char} {category rule : Category}
  {lexeme : List Char}

/-- What stands around a lexeme has no say in which rule takes it: each rule that does also takes
the lexeme where it stands alone. -/
theorem rule_of_lexeme (member : Piece.lexeme category lexeme ∈ pieces grammar.rules text)
    (again : Piece.lexeme rule lexeme ∈ pieces grammar.rules other) : category = rule := by
  obtain ⟨before, after, taken⟩ := taken_of_mem member
  obtain ⟨otherBefore, otherAfter, takenAgain⟩ := taken_of_mem again
  exact (taken.alone.unique takenAgain.alone rfl).1

/-- A token is the lexeme of a piece, under the category that its rule and its spelling give. -/
theorem lexeme_of_mem {start : Source.Position} {pieces : List Piece} {token : Token}
    (member : token ∈ tokensOf grammar start pieces) :
    ∃ category, Piece.lexeme category token.lexeme.toList ∈ pieces ∧
      token.category = finalCategory grammar category token.lexeme.toList := by
  obtain ⟨place, category, text, inside, -, rfl⟩ := token_of_mem member
  obtain ⟨earlier, later, rfl, -⟩ := located_mem inside
  rw [String.toList_ofList]
  exact ⟨category, by simp, rfl⟩

theorem category_of_tokensOf {start otherStart : Source.Position} {token another : Token}
    (member : token ∈ tokensOf grammar start (pieces grammar.rules text))
    (again : another ∈ tokensOf grammar otherStart (pieces grammar.rules other))
    (same : token.lexeme = another.lexeme) : token.category = another.category := by
  obtain ⟨category, found, final⟩ := lexeme_of_mem member
  obtain ⟨rule, foundAgain, finalAgain⟩ := lexeme_of_mem again
  rw [← same] at foundAgain finalAgain
  rw [final, finalAgain, rule_of_lexeme found foundAgain]

end Scan

namespace Symbol

/-- If a lexeme has one category among some tokens, their table has one entry for each name. -/
theorem nodup_names {limits : SymbolLimits} {preferences : SymbolPreferences} {tokens : List Token}
    {table : Table} (ok : (tabulate limits preferences tokens).result = .ok table)
    (uniform : ∀ token ∈ tokens, ∀ another ∈ tokens, token.lexeme = another.lexeme →
      token.category = another.category) : (table.entries.map (·.name)).Nodup := by
  have keys : (table.entries.map Entry.key).Nodup := by
    rw [entries_of_tabulate ok]
    exact (nodup_map_firsts Entry.key _).sublist ((List.take_sublist _ _).map _)
  refine List.Nodup.map_on ?_ keys.of_map
  intro entry member another again sameName
  apply List.inj_on_of_nodup_map keys member again
  -- Entries of one name come from tokens of one lexeme, and so from one category.
  obtain ⟨token, inside, made⟩ := mem_entries_of_tabulate ok member
  obtain ⟨second, insideAgain, madeAgain⟩ := mem_entries_of_tabulate ok again
  obtain ⟨kind, classed, rfl⟩ := Option.map_eq_some_iff.mp made
  obtain ⟨otherKind, otherClassed, rfl⟩ := Option.map_eq_some_iff.mp madeAgain
  rw [uniform token inside second insideAgain sameName, otherClassed] at classed
  exact Prod.ext sameName (Option.some.inj classed).symm

end Symbol

namespace Analysis

open Scan

/-- In all texts that are scanned under one grammar a lexeme is found by one rule and becomes a
token of one category, so no two symbols of a text have the same name. -/
theorem category_of_lexeme {first second : Settings} (same : first.grammar = second.grammar)
    (text other : String) :
    (∀ category rule lexeme,
      Piece.lexeme category lexeme ∈ pieces first.grammar.rules text.toList →
      Piece.lexeme rule lexeme ∈ pieces second.grammar.rules other.toList → category = rule) ∧
    (∀ tokens others, (scan first text).tokens = .ok tokens →
      (scan second other).tokens = .ok others →
        ∀ token ∈ tokens, ∀ another ∈ others, token.lexeme = another.lexeme →
          token.category = another.category) ∧
    ∀ findings, (examine first text).result = .ok findings →
      (findings.symbols.entries.map (·.name)).Nodup := by
  refine ⟨?_, ?_, ?_⟩
  · intro category rule lexeme member again
    rw [same] at member
    exact rule_of_lexeme member again
  · intro tokens others ok okAgain token member another again
    rw [(emitted_of_scan ok).1, same] at member
    rw [(emitted_of_scan okAgain).1] at again
    exact category_of_tokensOf member again
  · intro findings ok
    obtain ⟨scanned, -, tabulated⟩ := examine_eq_ok_iff.mp ok
    refine Symbol.nodup_names tabulated fun token member another again => ?_
    rw [(emitted_of_scan scanned).1] at member again
    exact category_of_tokensOf member again

theorem category_of_lexeme_equal_signs :
    Settings.grammar {} = Settings.grammar {} ∧
      ∃ tokens others findings,
        (scan {} (String.ofList ['a', '=', 'a'])).tokens = .ok tokens ∧
          (scan {} (String.ofList ['=', '='])).tokens = .ok others ∧
          (examine {} (String.ofList ['a', '=', 'a'])).result = .ok findings ∧
          tokens.map (·.lexeme) = ["a", "=", "a"] ∧ others.map (·.lexeme) = ["=", "="] ∧
          (∀ token ∈ tokens, ∀ another ∈ others, token.lexeme = another.lexeme →
            token.category = another.category) ∧
          (findings.symbols.entries.map (·.name)).Nodup := by
  have cut : pieces Category.all (String.ofList ['a', '=', 'a']).toList =
      [.lexeme .identifier ['a'], .lexeme .assignment ['='], .lexeme .identifier ['a']] := by
    rw [String.toList_ofList]
    decide +kernel
  have otherCut : pieces Category.all (String.ofList ['=', '=']).toList =
      [.lexeme .assignment ['='], .lexeme .assignment ['=']] := by
    rw [String.toList_ofList]
    decide +kernel
  have scanned := @scan_succeeds {} _ _ cut (by decide) (by decide) (by decide) (by decide)
  have scannedAgain := @scan_succeeds {} _ _ otherCut (by decide) (by decide) (by decide)
    (by decide)
  have tabulated : (Symbol.tabulate ({} : Settings).limits.symbols ({} : Settings).symbols
      (tokensOf .standard .start
        [.lexeme .identifier ['a'], .lexeme .assignment ['='], .lexeme .identifier ['a']])).result =
        .ok ⟨[⟨"a", .identifier, ⟨0, 1, 1⟩, ⟨1, 1, 2⟩⟩,
          ⟨"=", .assignment, ⟨1, 1, 2⟩, ⟨2, 1, 3⟩⟩]⟩ := by
    rw [Symbol.tabulate_ok_iff rfl]
    decide
  have examined : (examine {} (String.ofList ['a', '=', 'a'])).result = .ok ⟨_, _, _⟩ :=
    examine_eq_ok_iff.mpr ⟨scanned, rfl, tabulated⟩
  obtain ⟨-, alike, named⟩ := @category_of_lexeme {} {} rfl
    (String.ofList ['a', '=', 'a']) (String.ofList ['=', '='])
  exact ⟨rfl, _, _, _, scanned, scannedAgain, examined, rfl, rfl, alike _ _ scanned scannedAgain,
    named _ examined⟩

end Analysis

end LexReport
