import LexReport.Proofs.Analysis.Findings
import LexReport.Proofs.Scan.Emitted
import LexReport.Report.Layout
import Mathlib.Algebra.GroupWithZero.Nat

/-! How many lines the tokens and the symbols of a report take: one each, but for literals and
directives that span lines of the source, which span as many lines of the report. -/

set_option autoImplicit false

namespace LexReport

section Lexemes

namespace Scan

theorem not_feed_of_isNumber {lexeme : List Char} (number : IsNumber lexeme) : '\n' ∉ lexeme := by
  have digits {run : List Char} (digital : IsDigits run) : '\n' ∉ run := fun feed =>
    absurd (digital.2 '\n' feed) (by decide)
  obtain ⟨whole, digital, rfl | ⟨fraction, more, rfl⟩⟩ := number
  · exact digits digital
  · simp [digits digital, digits more]

/-- Only these categories have lexemes with line feeds in them. -/
theorem category_of_feed {category : Category} {lexeme : List Char}
    (spells : Spells category lexeme) (feed : '\n' ∈ lexeme) :
    category ∈ [.preprocessor, .stringLiteral, .charLiteral, .newline] := by
  cases category
  case preprocessor | stringLiteral | charLiteral | newline => decide
  case comment =>
    obtain ⟨body, rfl, line⟩ | ⟨body, rfl, line, -⟩ := spells <;> simp [line] at feed
  case datatype | keyword | identifier =>
    exact absurd (spells.2.1 '\n' feed) (by decide)
  case constant => exact absurd feed (not_feed_of_isNumber spells)
  case whitespace => exact absurd (spells.2 '\n' feed) (by decide)
  case atSign | increment | decrement | assignment =>
    rw [spells] at feed
    exact absurd feed (by decide)
  case arithmetic | roundBracket | curlyBracket | separator =>
    obtain ⟨c, member, rfl⟩ := spells
    obtain rfl := List.mem_singleton.mp feed
    exact absurd member (by decide)
  case relational =>
    obtain ⟨c, member, rfl⟩ | ⟨c, member, rfl⟩ := spells
    · obtain rfl : '\n' = c := by simpa using feed
      exact absurd member (by decide)
    · obtain rfl := List.mem_singleton.mp feed
      exact absurd member (by decide)

theorem category_of_spanning {settings : Settings} {text : String} {tokens : List Token}
    (ok : (scan settings text).tokens = .ok tokens) :
    ∀ token ∈ tokens, '\n' ∈ token.lexeme.toList →
      token.category ∈ [.preprocessor, .stringLiteral, .charLiteral] := by
  intro token member feed
  rw [(emitted_of_scan ok).1] at member
  obtain ⟨place, category, lexeme, inside, kept, rfl⟩ := token_of_mem member
  rw [String.toList_ofList] at feed
  obtain ⟨earlier, later, cut, -⟩ := located_mem inside
  have taken := (cut ▸ cut_pieces settings.grammar.rules text.toList).takes_at
  have rule := category_of_feed taken.reads.spells feed
  have final : finalCategory settings.grammar category lexeme = category := by
    refine if_neg ?_
    rintro rfl
    exact absurd rule (by decide)
  rw [final] at kept ⊢
  simp only [List.mem_cons, List.not_mem_nil, or_false] at rule ⊢
  rcases rule with rule | rule | rule | rfl
  · exact .inl rule
  · exact .inr (.inl rule)
  · exact .inr (.inr rule)
  · exact absurd kept (by decide)

end Scan

/-- A symbol whose name holds a line feed is a text. -/
theorem Symbol.kind_of_spanning {entry : Symbol.Entry} {token : Token}
    (made : Symbol.Entry.ofToken? token = some entry)
    (category : token.category ∈ [Category.preprocessor, .stringLiteral, .charLiteral]) :
    entry.kind = .stringLiteral := by
  obtain ⟨kind, classed, rfl⟩ := Option.map_eq_some_iff.mp made
  simp only [List.mem_cons, List.not_mem_nil, or_false] at category
  rcases category with same | same | same <;> rw [same] at classed
  · contradiction
  · exact (Option.some.inj classed).symm
  · contradiction

end Lexemes

namespace Report

open Text

section Lines

def linesOf (text : String) : List String :=
  (text.toList.splitOn '\n').map String.ofList

theorem length_splitOn (text : List Char) :
    (text.splitOn '\n').length = text.count '\n' + 1 := by
  induction text with
  | nil => rfl
  | cons c text ih =>
    rw [List.splitOn_cons_eq_if_modifyHead]
    by_cases feed : c = '\n'
    · rw [if_pos (beq_iff_eq.mpr feed), List.length_cons, ih, feed, List.count_cons_self]
    · rw [if_neg (by simpa using feed), List.length_modifyHead, ih, List.count_cons_of_ne feed]

theorem length_linesOf (text : String) : (linesOf text).length = text.toList.count '\n' + 1 := by
  rw [linesOf, List.length_map, length_splitOn]

theorem linesOf_line {line : String} (whole : '\n' ∉ line.toList) : linesOf line = [line] := by
  rw [linesOf, List.splitOn_eq_singleton whole, List.map_singleton, String.ofList_toList]

theorem linesOf_ended (line rest : String) :
    linesOf (line ++ "\n" ++ rest) = linesOf line ++ linesOf rest := by
  have feed : (line ++ "\n" ++ rest).toList = line.toList ++ '\n' :: rest.toList := by
    simp
  rw [linesOf, feed, List.splitOn_append_cons_self, List.map_append]
  rfl

theorem foldl_unlines (text : String) (lines : List String) :
    lines.foldl (fun text line => text ++ line ++ "\n") text = text ++ unlines lines := by
  rw [unlines]
  induction lines generalizing text with
  | nil => rw [List.foldl_nil, List.foldl_nil, String.append_empty]
  | cons line lines ih =>
    rw [List.foldl_cons, List.foldl_cons, ih, ih ("" ++ line ++ "\n"), String.empty_append]
    simp only [String.append_assoc]

theorem unlines_cons (line : String) (lines : List String) :
    unlines (line :: lines) = line ++ "\n" ++ unlines lines := by
  rw [unlines, List.foldl_cons, foldl_unlines, String.empty_append]

theorem unlines_append (lines more : List String) :
    unlines (lines ++ more) = unlines lines ++ unlines more := by
  rw [unlines, List.foldl_append, foldl_unlines]
  rfl

theorem linesOf_unlines (lines : List String) :
    linesOf (unlines lines) = lines.flatMap linesOf ++ [""] := by
  induction lines with
  | nil => rfl
  | cons line lines ih => rw [unlines_cons, linesOf_ended, ih, List.flatMap_cons, List.append_assoc]

def feedTotal (texts : List String) : Nat :=
  (texts.map fun text => text.toList.count '\n').sum

theorem feedTotal_eq_zero_iff (texts : List String) :
    feedTotal texts = 0 ↔ ∀ text ∈ texts, '\n' ∉ text.toList := by
  rw [feedTotal, List.sum_eq_zero_iff_forall_eq_nat]
  simp only [List.forall_mem_map, List.count_eq_zero]

theorem length_flatMap_linesOf (lines : List String) :
    (lines.flatMap linesOf).length = lines.length + feedTotal lines := by
  induction lines with
  | nil => rfl
  | cons line lines ih =>
    rw [feedTotal] at ih ⊢
    rw [List.flatMap_cons, List.length_append, ih, length_linesOf, List.length_cons, List.map_cons,
      List.sum_cons]
    omega

theorem flatMap_linesOf_eq_iff (lines : List String) :
    lines.flatMap linesOf = lines ↔ feedTotal lines = 0 := by
  constructor
  · intro same
    have length := length_flatMap_linesOf lines
    rw [same] at length
    omega
  · intro none
    rw [feedTotal_eq_zero_iff] at none
    induction lines with
    | nil => rfl
    | cons line lines ih =>
      obtain ⟨here, others⟩ := List.forall_mem_cons.mp none
      rw [List.flatMap_cons, linesOf_line here, ih others, List.singleton_append]

end Lines

section Listing

/-- Lines are listed in a section on their own, but for names that span lines. -/
structure Listing (text : String) (lines names : List String) : Prop where
  whole : linesOf text = lines ++ [""] ↔ ∀ name ∈ names, '\n' ∉ name.toList
  total : (linesOf text).length = lines.length + feedTotal names + 1

theorem listing_unlines {α : Type} (items : List α) {line name : α → String}
    (feeds : ∀ item, (line item).toList.count '\n' = (name item).toList.count '\n') :
    Listing (unlines (items.map line)) (items.map line) (items.map name) := by
  have same : feedTotal (items.map line) = feedTotal (items.map name) := by
    simp only [feedTotal, List.map_map, Function.comp_def, feeds]
  refine ⟨?_, ?_⟩
  · rw [linesOf_unlines, List.append_cancel_right_eq, flatMap_linesOf_eq_iff, same,
      feedTotal_eq_zero_iff]
  · rw [linesOf_unlines, List.length_append, length_flatMap_linesOf, same, List.length_singleton]

theorem count_feed_leftJustified (width : Nat) (text : String) :
    (leftJustified width text).toList.count '\n' = text.toList.count '\n' := by
  rw [leftJustified, repeated, String.toList_append, String.toList_ofList, List.count_append,
    List.count_replicate, if_neg (by decide), Nat.add_zero]

theorem count_feed_tokenLine (token : Token) :
    (tokenLine token).toList.count '\n' = token.lexeme.toList.count '\n' := by
  have label : (" -> " ++ token.category.name).toList.count '\n' = 0 := by
    cases token.category <;> decide
  rw [tokenLine, String.append_assoc, String.toList_append, List.count_append,
    count_feed_leftJustified, label, Nat.add_zero]

theorem count_feed_tableRow (name : String) (kind : Symbol.Class) :
    (tableRow name kind.label).toList.count '\n' = name.toList.count '\n' := by
  have label : (" " ++ leftJustified classWidth kind.label).toList.count '\n' = 0 := by
    cases kind <;> decide
  rw [tableRow, String.append_assoc, String.toList_append, List.count_append,
    count_feed_leftJustified, label, Nat.add_zero]

end Listing

section Layout

structure Layout (findings : Analysis.Findings) : Prop where
  tokens : Listing (tokenSection findings.tokens) (findings.tokens.map tokenLine)
    (findings.tokens.map (·.lexeme))
  symbols : Listing (symbolSection findings.symbols)
    (findings.symbols.entries.map fun entry => tableRow entry.name entry.kind.label)
    (findings.symbols.entries.map (·.name))
  /-- Only include directives and literals of both kinds may span lines. -/
  spanningTokens : ∀ token ∈ findings.tokens, '\n' ∈ token.lexeme.toList →
    token.category ∈ [.preprocessor, .stringLiteral, .charLiteral]
  spanningSymbols : ∀ entry ∈ findings.symbols.entries, '\n' ∈ entry.name.toList →
    entry.kind = .stringLiteral

variable {settings : Scan.Settings} {text : String} {findings : Analysis.Findings}

theorem examine_text_over_lines :
    ∃ findings, (Analysis.examine {} (String.ofList ['"', 'a', '\n', 'b', '"'])).result =
        .ok findings ∧
      findings.tokens = [⟨.stringLiteral, "\"a\nb\"", ⟨0, 1, 1⟩, ⟨5, 2, 3⟩⟩] ∧
        findings.symbols.entries =
          [⟨"\"a\nb\"", .stringLiteral, ⟨0, 1, 1⟩, ⟨5, 2, 3⟩⟩] := by
  have cut : Scan.pieces ({} : Scan.Settings).grammar.rules
      (String.ofList ['"', 'a', '\n', 'b', '"']).toList =
        [.lexeme .stringLiteral ['"', 'a', '\n', 'b', '"']] := by
    rw [String.toList_ofList]
    decide +kernel
  have fits : ∀ piece ∈ [.lexeme .stringLiteral ['"', 'a', '\n', 'b', '"']],
      Scan.Fits ({} : Scan.Settings).limits.lexical piece := by
    rw [List.forall_mem_singleton]
    exact fun _ => rfl
  have scanned : (Scan.scan {} (String.ofList ['"', 'a', '\n', 'b', '"'])).tokens =
      .ok [⟨.stringLiteral, "\"a\nb\"", ⟨0, 1, 1⟩, ⟨5, 2, 3⟩⟩] := by
    rw [Scan.scan_succeeds cut fits (by decide) (by decide) (by decide)]
    rfl
  have tabulated : (Symbol.tabulate ({} : Scan.Settings).limits.symbols {}
      [⟨.stringLiteral, "\"a\nb\"", ⟨0, 1, 1⟩, ⟨5, 2, 3⟩⟩]).result =
        .ok ⟨[⟨"\"a\nb\"", .stringLiteral, ⟨0, 1, 1⟩, ⟨5, 2, 3⟩⟩]⟩ := by
    rw [Symbol.tabulate_ok_iff rfl]
    decide
  have examined : (Analysis.examine {} (String.ofList ['"', 'a', '\n', 'b', '"'])).result =
      .ok ⟨_, _, _⟩ := Analysis.examine_eq_ok_iff.mpr ⟨scanned, rfl, tabulated⟩
  exact ⟨_, examined, rfl, rfl⟩

/-- Whatever is found in a text, tokens and symbols take one line of the report each, and one more
for each line feed in a lexeme. -/
theorem layout_of_examine (ok : (Analysis.examine settings text).result = .ok findings) :
    Layout findings := by
  obtain ⟨scanned, -, tabulated⟩ := Analysis.examine_eq_ok_iff.mp ok
  have spanning := Scan.category_of_spanning scanned
  refine ⟨listing_unlines _ count_feed_tokenLine,
    listing_unlines _ fun entry => count_feed_tableRow entry.name entry.kind, spanning, ?_⟩
  intro entry member feed
  obtain ⟨token, among, made⟩ := Symbol.mem_entries_of_tabulate tabulated member
  refine Symbol.kind_of_spanning made (spanning token among ?_)
  obtain ⟨kind, -, rfl⟩ := Option.map_eq_some_iff.mp made
  exact feed

theorem layout_of_text_over_lines :
    ∃ findings, (Analysis.examine {} (String.ofList ['"', 'a', '\n', 'b', '"'])).result =
        .ok findings ∧
      Layout findings ∧ findings.tokens.length = 1 ∧ findings.symbols.size = 1 ∧
        (linesOf (tokenSection findings.tokens)).length = 3 ∧
          (linesOf (symbolSection findings.symbols)).length = 3 := by
  obtain ⟨findings, ok, tokens, symbols⟩ := examine_text_over_lines
  have layout := layout_of_examine ok
  refine ⟨findings, ok, layout, by rw [tokens]; rfl, by rw [Symbol.Table.size, symbols]; rfl, ?_⟩
  rw [layout.tokens.total, layout.symbols.total, tokens, symbols]
  decide

/-- One line for each token and for each symbol is too much to promise. -/
theorem tokens_over_lines :
    ¬ ∀ (settings : Scan.Settings) (text : String) (findings : Analysis.Findings),
      (Analysis.examine settings text).result = .ok findings →
        linesOf (tokenSection findings.tokens) = findings.tokens.map tokenLine ++ [""] ∧
          linesOf (symbolSection findings.symbols) =
            (findings.symbols.entries.map fun entry => tableRow entry.name entry.kind.label) ++
              [""] := by
  intro promise
  obtain ⟨findings, ok, tokens, -⟩ := examine_text_over_lines
  have listed := (promise {} _ findings ok).1
  have whole := (listing_unlines findings.tokens count_feed_tokenLine).whole.mp listed
  rw [tokens] at whole
  exact absurd (whole "\"a\nb\"" (by simp)) (by decide)

end Layout

end Report

end LexReport
