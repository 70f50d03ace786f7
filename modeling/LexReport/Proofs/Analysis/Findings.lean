import LexReport.Analysis.Findings
import LexReport.Proofs.Scan.Emitted
import LexReport.Proofs.Scan.Registered
import LexReport.Proofs.Symbol.Table

/-! The identifiers that a scan keeps and the symbol table of its tokens agree: they name the same
plain identifiers in the same order, and the places where they were first seen. Where the table may
drop symbols, it is those behind the first so many that it lacks. -/

set_option autoImplicit false

namespace LexReport.Analysis

open Notice Scan LexReport.Symbol

section PlainEntries

def entryOf (token : Token) : Entry := ⟨token.lexeme, .identifier, token.span⟩

theorem filter_ofToken? (tokens : List Token) :
    (tokens.filterMap Entry.ofToken?).filter (·.kind = .identifier) =
      (plainTokens tokens).map entryOf := by
  induction tokens with
  | nil => rfl
  | cons token rest ih =>
    have plain := Class.ofCategory?_eq_identifier_iff token.category
    rw [List.filterMap_cons, plainTokens, List.filter_cons, Entry.ofToken?]
    cases classed : Class.ofCategory? token.category with
    | none =>
      rw [classed] at plain
      rw [if_neg (by simpa using plain)]
      exact ih
    | some kind =>
      rw [classed, Option.some.injEq] at plain
      dsimp only [Option.map_some]
      rw [List.filter_cons, ih]
      by_cases identifier : kind = .identifier
      · rw [if_pos (decide_eq_true identifier), if_pos (decide_eq_true (plain.mp identifier)),
          identifier]
        rfl
      · rw [if_neg (by simpa using identifier), if_neg (by simpa [← plain] using identifier)]
        rfl

/-- Of the first entries for each key, those of plain identifiers are the entries of their first
tokens. -/
theorem filter_firsts_ofToken? (tokens : List Token) :
    (firsts Entry.key (tokens.filterMap Entry.ofToken?)).filter (·.kind = .identifier) =
      (firstUses tokens).map entryOf := by
  have tests (first second : Entry) (same : first.key = second.key) :
      decide (first.kind = .identifier) = decide (second.kind = .identifier) := by
    rw [(Prod.mk.inj same).2]
  have keys (first second : Token) :
      (entryOf first).key = (entryOf second).key ↔ first.lexeme = second.lexeme := by
    simp [Entry.key, entryOf]
  rw [filter_firsts tests, filter_ofToken?, firstUses, map_firsts keys]

end PlainEntries

variable {settings : Settings} {text : String} {findings : Findings}

theorem scanStage_eq_ok_iff {tokens : List Token} {gathered : Gathered} :
    (scanStage settings text).result = .ok (tokens, gathered) ↔
      (scan settings text).tokens = .ok tokens ∧ (scan settings text).gathered = gathered := by
  unfold scanStage
  cases ended : (scan settings text).tokens <;> simp [Except.map, ended]

theorem scanStage_eq_error_iff {stop : Stop Scan.Error} :
    (scanStage settings text).result = .error stop ↔ (scan settings text).tokens = .error stop := by
  unfold scanStage
  cases ended : (scan settings text).tokens <;> simp [Except.map, ended]

theorem examine_eq_ok_iff :
    (examine settings text).result = .ok findings ↔
      (scan settings text).tokens = .ok findings.tokens ∧
        (scan settings text).gathered = findings.gathered ∧
        (tabulate settings.limits.symbols settings.symbols findings.tokens).result =
          .ok findings.symbols := by
  unfold examine
  simp only [Stage.bind_eq_ok_iff, Stage.mapError_eq_ok_iff]
  constructor
  · rintro ⟨⟨tokens, gathered⟩, scanned, table, tabulated, ended⟩
    obtain rfl := Except.ok.inj ended
    obtain ⟨ok, left⟩ := scanStage_eq_ok_iff.mp scanned
    exact ⟨ok, left, tabulated⟩
  · rintro ⟨ok, left, tabulated⟩
    exact ⟨(findings.tokens, findings.gathered), scanStage_eq_ok_iff.mpr ⟨ok, left⟩,
      findings.symbols, tabulated, rfl⟩

theorem scan_of_examine_panicked (panicked : (examine settings text).result = .error .panicked) :
    (scan settings text).tokens = .error .panicked := by
  unfold examine at panicked
  obtain stopped | ⟨⟨tokens, gathered⟩, -, goesOn⟩ := Stage.bind_eq_error_iff.mp panicked
  · obtain ⟨stop, scanned, same⟩ := Stage.mapError_eq_error_iff.mp stopped
    cases stop with
    | failed error => cases same
    | panicked => exact scanStage_eq_error_iff.mp scanned
  · obtain stopped | ⟨symbols, -, ended⟩ := Stage.bind_eq_error_iff.mp goesOn
    · obtain ⟨error, -, same⟩ := Stage.mapError_eq_error_iff.mp stopped
      cases same
    · cases ended

theorem inputFailure?_of_examine {error : Analysis.Error}
    (stopped : (examine settings text).result = .error (.failed error)) :
    error.inputFailure? = none := by
  unfold examine at stopped
  obtain failed | ⟨⟨tokens, gathered⟩, -, goesOn⟩ := Stage.bind_eq_error_iff.mp stopped
  · obtain ⟨⟨reason⟩ | -, -, same⟩ := Stage.mapError_eq_error_iff.mp failed
    · obtain rfl := Stop.failed.inj same
      rfl
    · contradiction
  · obtain failed | ⟨symbols, -, ended⟩ := Stage.bind_eq_error_iff.mp goesOn
    · obtain ⟨reason, -, same⟩ := Stage.mapError_eq_error_iff.mp failed
      obtain rfl := Stop.failed.inj same
      rfl
    · cases ended

section Agreement

/-- The distinct pairs of a lexeme and its class, in the order in which they appear. -/
def distinctSymbols (tokens : List Token) : List (String × Symbol.Class) :=
  ((tokens.filterMap Entry.ofToken?).map Entry.key).eraseDups

def plainNames (symbols : List (String × Symbol.Class)) : List String :=
  (symbols.filter (·.2 = .identifier)).map (·.1)

structure Agrees (limits : SymbolLimits) (findings : Findings) : Prop where
  names : findings.gathered.identifiers.names =
    ((plainTokens findings.tokens).map (·.lexeme)).eraseDups
  symbols : findings.gathered.identifiers.names = plainNames (distinctSymbols findings.tokens)
  entries : findings.symbols.plainEntries.map (·.name) =
    plainNames ((distinctSymbols findings.tokens).take limits.maxSymbolEntries)
  /-- The entries have the first records, and all of them if no symbol was dropped. -/
  records : (findings.symbols.plainEntries.map fun entry =>
    IdentifierRecord.seen entry.name entry.firstSeen.first.line) <+:
      findings.gathered.identifiers.records.toList
  whole : (distinctSymbols findings.tokens).length ≤ limits.maxSymbolEntries →
    findings.gathered.identifiers.records.toList =
      findings.symbols.plainEntries.map fun entry => .seen entry.name entry.firstSeen.first.line
  places : ∀ entry ∈ findings.symbols.plainEntries,
    (plainTokens findings.tokens).find? (·.lexeme = entry.name) =
      some ⟨.identifier, entry.name, entry.firstSeen⟩

theorem distinctSymbols_eq (tokens : List Token) :
    distinctSymbols tokens =
      (firsts Entry.key (tokens.filterMap Entry.ofToken?)).map Entry.key := by
  have keys (first second : Entry) : id first.key = id second.key ↔ first.key = second.key :=
    Iff.rfl
  rw [distinctSymbols, map_firsts keys, firsts_id]

theorem plainNames_map_key (entries : List Entry) :
    plainNames (entries.map Entry.key) = (entries.filter (·.kind = .identifier)).map (·.name) := by
  rw [plainNames, List.filter_map, List.map_map]
  rfl

theorem find?_of_mem_firstUses {tokens : List Token} {token : Token}
    (member : token ∈ firstUses tokens) :
    (plainTokens tokens).find? (·.lexeme = token.lexeme) =
      some ⟨.identifier, token.lexeme, token.span⟩ := by
  have found := find?_of_mem_firsts member
  have plain : token.category = .identifier :=
    of_decide_eq_true (List.mem_filter.mp (List.mem_of_find?_eq_some found)).2
  rw [← plain]
  exact found

theorem plainEntries_of_tabulate {limits : SymbolLimits} {preferences : SymbolPreferences}
    {tokens : List Token} {table : Table}
    (ok : (tabulate limits preferences tokens).result = .ok table) :
    table.plainEntries <+: (firstUses tokens).map entryOf := by
  rw [Table.plainEntries, entries_of_tabulate ok, ← filter_firsts_ofToken?]
  exact (List.take_prefix _ _).filter _

theorem plainEntries_of_whole {limits : SymbolLimits} {preferences : SymbolPreferences}
    {tokens : List Token} {table : Table}
    (ok : (tabulate limits preferences tokens).result = .ok table)
    (room : (distinctSymbols tokens).length ≤ limits.maxSymbolEntries) :
    table.plainEntries = (firstUses tokens).map entryOf := by
  rw [distinctSymbols_eq, List.length_map] at room
  rw [Table.plainEntries, entries_of_tabulate ok, List.take_of_length_le room,
    filter_firsts_ofToken?]

theorem agrees_of_tabulate {limits : SymbolLimits} {preferences : SymbolPreferences}
    (records : findings.gathered.identifiers.records.toList =
      (firstUses findings.tokens).map recordOf)
    (tabulated : (tabulate limits preferences findings.tokens).result = .ok findings.symbols) :
    Agrees limits findings := by
  have names : findings.gathered.identifiers.names =
      (firstUses findings.tokens).map (·.lexeme) := by
    rw [Identifiers.names, records, List.map_map]
    rfl
  have keys (first second : Token) : id first.lexeme = id second.lexeme ↔
      first.lexeme = second.lexeme := Iff.rfl
  have front := plainEntries_of_tabulate tabulated
  constructor
  · rw [names, firstUses, map_firsts keys, firsts_id]
  · rw [names, distinctSymbols_eq, plainNames_map_key, filter_firsts_ofToken?, List.map_map]
    rfl
  · rw [distinctSymbols_eq, ← List.map_take, plainNames_map_key, ← entries_of_tabulate tabulated]
    rfl
  · have made : (fun entry => IdentifierRecord.seen entry.name entry.firstSeen.first.line) ∘
        entryOf = recordOf := rfl
    rw [records, ← made, ← List.map_map]
    exact front.map _
  · intro room
    rw [records, plainEntries_of_whole tabulated room, List.map_map]
    rfl
  · intro entry member
    obtain ⟨token, first, rfl⟩ := List.mem_map.mp (front.subset member)
    exact find?_of_mem_firstUses first

theorem agrees_of_examine (ok : (examine settings text).result = .ok findings) :
    Agrees settings.limits.symbols findings := by
  obtain ⟨scanned, gathered, tabulated⟩ := examine_eq_ok_iff.mp ok
  refine agrees_of_tabulate ?_ tabulated
  rw [← gathered, records_of_scan scanned]

theorem length_distinctSymbols_le (strict : settings.symbols.enforceLimit = true)
    (ok : (examine settings text).result = .ok findings) :
    (distinctSymbols findings.tokens).length ≤ settings.limits.symbols.maxSymbolEntries := by
  obtain ⟨-, -, tabulated⟩ := examine_eq_ok_iff.mp ok
  rw [distinctSymbols_eq, List.length_map]
  exact ((tabulate_ok_iff strict _ _).mp tabulated).1

/-- The identifiers that are kept are the plain ones among the distinct symbols of a text, and those
of the symbol table are the plain ones among the first so many of these. If symbols may not be
dropped, there are no more. Whatever comes of a text, no name of a type and no reserved word is
kept. -/
theorem examine_agrees (standard : settings.grammar = .standard) (text : String) :
    (∀ findings, (examine settings text).result = .ok findings →
      Agrees settings.limits.symbols findings ∧
        (settings.symbols.enforceLimit = true →
          (distinctSymbols findings.tokens).length ≤ settings.limits.symbols.maxSymbolEntries)) ∧
      ∀ name ∈ (scan settings text).gathered.identifiers.names,
        name ∉ datatypeNames ∧ name ∉ reservedWords := by
  constructor
  · intro findings ok
    exact ⟨agrees_of_examine ok, fun strict => length_distinctSymbols_le strict ok⟩
  · intro name member
    have plain := classify_of_mem_names member
    rw [standard] at plain
    exact (classifyWord_eq_identifier_iff name).mp plain

theorem examine_agrees_two_names :
    Settings.grammar {} = .standard ∧
      ∃ findings,
        (examine {} (String.ofList ['b', ' ', 'a', ' ', 'b'])).result = .ok findings ∧
          Agrees Limits.development.symbols findings ∧
          findings.gathered.identifiers.names = ["b", "a"] ∧
          findings.symbols.plainEntries.map (·.name) = ["b", "a"] := by
  have cut : pieces Category.all (String.ofList ['b', ' ', 'a', ' ', 'b']).toList =
      [.lexeme .identifier ['b'], .lexeme .whitespace [' '], .lexeme .identifier ['a'],
        .lexeme .whitespace [' '], .lexeme .identifier ['b']] := by
    rw [String.toList_ofList]
    decide +kernel
  have scanned := @scan_succeeds {} _ _ cut (by decide) (by decide) (by decide) (by decide)
  have tabulated : (tabulate ({} : Settings).limits.symbols ({} : Settings).symbols
      (tokensOf .standard .start [.lexeme .identifier ['b'], .lexeme .whitespace [' '],
        .lexeme .identifier ['a'], .lexeme .whitespace [' '], .lexeme .identifier ['b']])).result =
        .ok ⟨[⟨"b", .identifier, ⟨0, 1, 1⟩, ⟨1, 1, 2⟩⟩,
          ⟨"a", .identifier, ⟨2, 1, 3⟩, ⟨3, 1, 4⟩⟩]⟩ := by
    rw [tabulate_ok_iff rfl]
    decide
  have ok : (examine {} (String.ofList ['b', ' ', 'a', ' ', 'b'])).result = .ok ⟨_, _, _⟩ :=
    examine_eq_ok_iff.mpr ⟨scanned, rfl, tabulated⟩
  obtain ⟨agrees, -⟩ := (@examine_agrees {} rfl _).1 _ ok
  exact ⟨rfl, _, ok, agrees, agrees.names.trans (by decide), rfl⟩

/-- A table of one symbol lacks the only plain identifier of a text, which is kept all the same. -/
theorem names_beside_full_table :
    ∃ findings,
      (examine { limits := { Limits.development with symbols := ⟨1, 9⟩ }
                 symbols := { enforceLimit := false } }
        (String.ofList ['1', ' ', 'a'])).result = .ok findings ∧
        findings.gathered.identifiers.names = ["a"] ∧ findings.symbols.plainEntries = [] := by
  have cut : pieces Category.all (String.ofList ['1', ' ', 'a']).toList =
      [.lexeme .constant ['1'], .lexeme .whitespace [' '], .lexeme .identifier ['a']] := by
    rw [String.toList_ofList]
    decide +kernel
  have scanned := @scan_succeeds { limits := { Limits.development with symbols := ⟨1, 9⟩ }
                                   symbols := { enforceLimit := false } } _ _ cut
    (by decide) (by decide) (by decide) (by decide)
  have ok : (examine { limits := { Limits.development with symbols := ⟨1, 9⟩ }
                       symbols := { enforceLimit := false } }
      (String.ofList ['1', ' ', 'a'])).result = .ok ⟨_, ⟨_⟩, _⟩ :=
    examine_eq_ok_iff.mpr ⟨scanned, rfl, tabulate_of_lenient rfl _⟩
  exact ⟨_, ok, (agrees_of_examine ok).names.trans (by decide), by decide⟩

end Agreement

end LexReport.Analysis
