import LexReport.Proofs.Analysis.Findings
import LexReport.Proofs.Json.ReadBack
import LexReport.Proofs.Scan.Emitted
import LexReport.Report.Summary

/-! What can be read from a summary: all that was found, and how much of each. -/

set_option autoImplicit false

namespace LexReport

open Json (Value)

section Symbols

namespace Symbol

theorem Class.ofLabel?_label (kind : Class) : ofLabel? kind.label = some kind := by
  cases kind <;> decide

def Entry.ofForm? (value : Value) : Option Entry := do
  match ← Json.fields? ["name", "classification", "first_seen"] value with
  | [name, kind, firstSeen] =>
    let name ← Json.string? name
    let kind ← (Json.string? kind).bind Class.ofLabel?
    let firstSeen ← Source.Span.ofForm? firstSeen
    return ⟨name, kind, firstSeen⟩
  | _ => none

theorem Entry.ofForm?_form {entry : Entry} (small : entry.firstSeen.IsSmall) :
    ofForm? entry.form = some entry := by
  have fields : Json.fields? ["name", "classification", "first_seen"] entry.form =
      some [.ofString entry.name, .ofString entry.kind.label, entry.firstSeen.form] :=
    Json.fields?_record rfl (by decide)
  rw [ofForm?, fields]
  dsimp only [Option.bind_eq_bind, Option.bind_some, Json.string?, Value.ofString]
  rw [Class.ofLabel?_label, Source.Span.ofForm?_form small]
  rfl

def IdentifierRecord.ofForm? (value : Value) : Option IdentifierRecord := do
  match ← Json.fields? ["name", "token_type", "line", "scope"] value with
  | [name, category, line, scope] =>
    let name ← Json.string? name
    let category ← Category.ofForm? category
    let line ← Json.natBelow? UInt32.size line
    let scope ← Json.string? scope
    return ⟨name, category, .ofNat line, scope⟩
  | _ => none

theorem IdentifierRecord.ofForm?_form (record : IdentifierRecord) :
    ofForm? record.form = some record := by
  have fields : Json.fields? ["name", "token_type", "line", "scope"] record.form =
      some [.ofString record.name, record.category.form, .ofNat record.line.toNat,
        .ofString record.scope] := Json.fields?_record rfl (by decide)
  rw [ofForm?, fields]
  dsimp only [Option.bind_eq_bind, Option.bind_some]
  rw [Category.ofForm?_form, Json.natBelow?_ofNat record.line.toNat_lt]
  simp [Json.string?, Value.ofString]

end Symbol

def Scan.Gap.ofForm? (value : Value) : Option Gap := do
  match ← Json.fields? ["span", "text"] value with
  | [span, text] =>
    let span ← Source.Span.ofForm? span
    let text ← Json.string? text
    return ⟨span, text⟩
  | _ => none

theorem Scan.Gap.ofForm?_form {gap : Gap} (small : gap.span.IsSmall) :
    ofForm? gap.form = some gap := by
  have fields : Json.fields? ["span", "text"] gap.form =
      some [gap.span.form, .ofString gap.text] := Json.fields?_record rfl (by decide)
  rw [ofForm?, fields]
  dsimp only [Option.bind_eq_bind, Option.bind_some]
  rw [Source.Span.ofForm?_form small]
  rfl

end Symbols

namespace Json

def nat? : Value → Option Nat
  | .number n => n
  | _ => none

def items? {α : Type} (read? : Value → Option α) : Value → Option (List α)
  | .array items => items.mapM read?
  | _ => none

def field? (name : String) (value : Value) : Option Value := do
  match ← fields? [name] value with
  | [field] => some field
  | _ => none

end Json

namespace Report

/-- What a summary says about what was found. -/
structure Contents where
  totalTokens : Nat
  totalSymbols : Nat
  totalIdentifiers : Nat
  tokens : List Token
  symbols : List Symbol.Entry
  identifiers : List Symbol.IdentifierRecord
  gaps : List Scan.Gap
  deriving DecidableEq

def Contents.ofFindings (findings : Analysis.Findings) : Contents where
  totalTokens := findings.tokens.length
  totalSymbols := findings.symbols.entries.length
  totalIdentifiers := findings.gathered.identifiers.records.toList.length
  tokens := findings.tokens
  symbols := findings.symbols.entries
  identifiers := findings.gathered.identifiers.records.toList
  gaps := findings.gathered.gaps.toList

def Contents.ofForm? (value : Value) : Option Contents := do
  match ← Json.fields? ["total_tokens", "total_unique_symbols", "total_unique_identifiers",
      "tokens", "symbols", "identifiers", "diagnostics"] value with
  | [totalTokens, totalSymbols, totalIdentifiers, tokens, symbols, identifiers, gaps] =>
    let totalTokens ← Json.nat? totalTokens
    let totalSymbols ← Json.nat? totalSymbols
    let totalIdentifiers ← Json.nat? totalIdentifiers
    let tokens ← Token.listOfForm? tokens
    let symbols ← Json.items? Symbol.Entry.ofForm? symbols
    let records ← Json.field? "records" identifiers
    let identifiers ← Json.items? Symbol.IdentifierRecord.ofForm? records
    let gaps ← Json.items? Scan.Gap.ofForm? gaps
    return ⟨totalTokens, totalSymbols, totalIdentifiers, tokens, symbols, identifiers, gaps⟩
  | _ => none

def Summary.findings (summary : Summary) : Analysis.Findings :=
  ⟨summary.tokens, summary.symbols, summary.gathered⟩

variable {findings : Analysis.Findings}

structure IsSmall (findings : Analysis.Findings) : Prop where
  tokens : ∀ token ∈ findings.tokens, token.span.IsSmall
  symbols : ∀ entry ∈ findings.symbols.entries, entry.firstSeen.IsSmall
  gaps : ∀ gap ∈ findings.gathered.gaps.toList, gap.span.IsSmall

theorem Contents.ofForm?_form {summary : Summary} (small : IsSmall summary.findings) :
    ofForm? summary.form = some (.ofFindings summary.findings) := by
  have fields : Json.fields? ["total_tokens", "total_unique_symbols", "total_unique_identifiers",
      "tokens", "symbols", "identifiers", "diagnostics"] summary.form =
        some [.ofNat summary.tokens.length, .ofNat summary.symbols.size,
          .ofNat summary.gathered.identifiers.size, Token.listForm summary.tokens,
          summary.symbols.form, summary.gathered.identifiers.form,
          .array (summary.gathered.gaps.toList.map Scan.Gap.form)] :=
    Json.fields?_ofFields rfl (by simp) (by simp)
  -- Each list is read back item by item.
  have tokens : Token.listOfForm? (Token.listForm summary.tokens) = some summary.tokens :=
    Token.listOfForm?_listForm small.tokens
  have symbols : Json.items? Symbol.Entry.ofForm? summary.symbols.form =
      some summary.symbols.entries :=
    Json.mapM_map fun entry member => Symbol.Entry.ofForm?_form (small.symbols entry member)
  have records : Json.field? "records" summary.gathered.identifiers.form =
      some (.array (summary.gathered.identifiers.records.toList.map
        Symbol.IdentifierRecord.form)) := rfl
  have identifiers : Json.items? Symbol.IdentifierRecord.ofForm?
      (.array (summary.gathered.identifiers.records.toList.map Symbol.IdentifierRecord.form)) =
        some summary.gathered.identifiers.records.toList :=
    Json.mapM_map fun record _ => Symbol.IdentifierRecord.ofForm?_form record
  have gaps : Json.items? Scan.Gap.ofForm?
      (.array (summary.gathered.gaps.toList.map Scan.Gap.form)) =
        some summary.gathered.gaps.toList :=
    Json.mapM_map fun gap member => Scan.Gap.ofForm?_form (small.gaps gap member)
  rw [ofForm?, fields]
  dsimp only [Option.bind_eq_bind, Option.bind_some]
  rw [tokens, symbols, records]
  dsimp only [Option.bind_some]
  rw [identifiers, gaps]
  rfl

theorem small_of_examine {settings : Scan.Settings} {text : String}
    (fits : text.utf8ByteSize < UInt64.size)
    (ok : (Analysis.examine settings text).result = .ok findings) : IsSmall findings := by
  obtain ⟨scanned, gathered, tabulated⟩ := Analysis.examine_eq_ok_iff.mp ok
  have tokens := Scan.token_small fits scanned
  refine ⟨tokens, ?_, gathered ▸ Scan.gap_small fits scanned⟩
  intro entry member
  obtain ⟨token, among, made⟩ := Symbol.mem_entries_of_tabulate tabulated member
  obtain ⟨kind, -, rfl⟩ := Option.map_eq_some_iff.mp made
  exact tokens token among

/-- Nothing is lost on the way through a document: tokens are read as they were written, wherever
they claim to be, and from the summary of a text all that was found in it. -/
theorem forms_lossless :
    (∀ tokens : List Token, (∀ token ∈ tokens, token.span.IsSmall) →
      (Json.read? (Token.listForm tokens).compact).bind Token.listOfForm? = some tokens ∧
        (Json.read? (Token.listForm tokens).pretty).bind Token.listOfForm? = some tokens) ∧
      ∀ (settings : Scan.Settings) (text : String) (summary : Summary),
        text.utf8ByteSize < UInt64.size →
          (Analysis.examine settings text).result = .ok summary.findings →
            ∃ document, Json.read? summary.text = some document ∧
              Contents.ofForm? document = some (.ofFindings summary.findings) := by
  constructor
  · intro tokens small
    rw [Json.read?_compact, Json.read?_pretty, Option.bind_some]
    exact ⟨Token.listOfForm?_listForm small, Token.listOfForm?_listForm small⟩
  · intro settings text summary fits ok
    exact ⟨summary.form, Json.read?_pretty _, Contents.ofForm?_form (small_of_examine fits ok)⟩

/-- A token that ends before it starts, and a text with a name and a gap. -/
theorem forms_lossless_odd_token :
    ((∀ token ∈ [(⟨.stringLiteral, "\"\\\u0001\n", ⟨7, 0, 9⟩, ⟨2, 1, 1⟩⟩ : Token)],
          token.span.IsSmall) ∧
        (Json.read? (Token.listForm
          [⟨.stringLiteral, "\"\\\u0001\n", ⟨7, 0, 9⟩, ⟨2, 1, 1⟩⟩]).compact).bind
            Token.listOfForm? = some [⟨.stringLiteral, "\"\\\u0001\n", ⟨7, 0, 9⟩, ⟨2, 1, 1⟩⟩]) ∧
      ∃ summary : Summary,
        (String.ofList ['a', ' ', '$']).utf8ByteSize < UInt64.size ∧
          (Analysis.examine {} (String.ofList ['a', ' ', '$'])).result = .ok summary.findings ∧
            ∃ document, Json.read? summary.text = some document ∧
              Contents.ofForm? document =
                some ⟨1, 1, 1, [⟨.identifier, "a", ⟨0, 1, 1⟩, ⟨1, 1, 2⟩⟩],
                  [⟨"a", .identifier, ⟨0, 1, 1⟩, ⟨1, 1, 2⟩⟩], [.seen "a" 1],
                  [⟨⟨⟨2, 1, 3⟩, ⟨3, 1, 4⟩⟩, "$"⟩]⟩ := by
  have cut : Scan.pieces ({} : Scan.Settings).grammar.rules (String.ofList ['a', ' ', '$']).toList =
      [.lexeme .identifier ['a'], .lexeme .whitespace [' '], .gap ['$']] := by
    rw [String.toList_ofList]
    decide +kernel
  have fit : ∀ piece ∈ [.lexeme .identifier ['a'], .lexeme .whitespace [' '], .gap ['$']],
      Scan.Fits ({} : Scan.Settings).limits.lexical piece := by
    simp only [List.forall_mem_cons, List.not_mem_nil, false_imp_iff, implies_true, and_true]
    exact ⟨fun _ => rfl, fun _ => rfl, trivial⟩
  have scanned : (Scan.scan {} (String.ofList ['a', ' ', '$'])).tokens =
      .ok [⟨.identifier, "a", ⟨0, 1, 1⟩, ⟨1, 1, 2⟩⟩] := by
    rw [Scan.scan_succeeds cut fit (by decide) (by decide) (by decide)]
    rfl
  have gaps : (Scan.scan {} (String.ofList ['a', ' ', '$'])).gathered.gaps.toList =
      [⟨⟨⟨2, 1, 3⟩, ⟨3, 1, 4⟩⟩, "$"⟩] := by
    rw [(Scan.emitted_of_scan scanned).2, cut]
    rfl
  have records :
      (Scan.scan {} (String.ofList ['a', ' ', '$'])).gathered.identifiers.records.toList =
        [.seen "a" 1] := by
    rw [Scan.records_of_scan scanned]
    rfl
  have tabulated : (Symbol.tabulate ({} : Scan.Settings).limits.symbols {}
      [⟨.identifier, "a", ⟨0, 1, 1⟩, ⟨1, 1, 2⟩⟩]).result =
        .ok ⟨[⟨"a", .identifier, ⟨0, 1, 1⟩, ⟨1, 1, 2⟩⟩]⟩ := by
    rw [Symbol.tabulate_ok_iff rfl]
    decide
  let summary : Summary := ⟨"in.c", "out.txt", ⟨0, 0⟩, "development",
    [⟨.identifier, "a", ⟨0, 1, 1⟩, ⟨1, 1, 2⟩⟩], ⟨[⟨"a", .identifier, ⟨0, 1, 1⟩, ⟨1, 1, 2⟩⟩]⟩,
    (Scan.scan {} (String.ofList ['a', ' ', '$'])).gathered⟩
  have examined : (Analysis.examine {} (String.ofList ['a', ' ', '$'])).result =
      .ok summary.findings := Analysis.examine_eq_ok_iff.mpr ⟨scanned, rfl, tabulated⟩
  have small : ∀ token ∈ [(⟨.stringLiteral, "\"\\\u0001\n", ⟨7, 0, 9⟩, ⟨2, 1, 1⟩⟩ : Token)],
      token.span.IsSmall := by
    rw [List.forall_mem_singleton]
    exact ⟨by decide, by decide⟩
  have fits : (String.ofList ['a', ' ', '$']).utf8ByteSize < UInt64.size := by decide
  obtain ⟨document, read, contents⟩ := forms_lossless.2 {} _ summary fits examined
  refine ⟨⟨small, (forms_lossless.1 _ small).1⟩, summary, fits, examined, document, read, ?_⟩
  have found : Contents.ofFindings summary.findings =
      ⟨1, 1, 1, [⟨.identifier, "a", ⟨0, 1, 1⟩, ⟨1, 1, 2⟩⟩],
        [⟨"a", .identifier, ⟨0, 1, 1⟩, ⟨1, 1, 2⟩⟩], [.seen "a" 1],
        [⟨⟨⟨2, 1, 3⟩, ⟨3, 1, 4⟩⟩, "$"⟩]⟩ := by
    dsimp only [Contents.ofFindings, Summary.findings, summary]
    rw [records, gaps]
    rfl
  rw [contents, found]

end Report

end LexReport
