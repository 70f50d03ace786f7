import LexReport.Proofs.Pattern.Search
import LexReport.Proofs.Scan.Account
import LexReport.Proofs.Scan.Composition
import LexReport.Proofs.Scan.Registered

/-! Names of types and reserved words are told from plain identifiers in two ways: by rules of their
own, and by their spelling when the identifier rule finds them. Either way alone gives the same
scans. -/

set_option autoImplicit false

namespace LexReport.Scan

open Text

section Grammars

/-- The categories that have both a rule of their own and a list of spellings. -/
def isListed (category : Category) : Bool :=
  category == .datatype || category == .keyword

/-- Without the rules for names of types and for reserved words: the identifier rule finds them, and
their spelling tells them apart. -/
def Grammar.bySpelling : Grammar :=
  ⟨Category.all.filter fun category => !isListed category, classifyWord⟩

/-- With all rules, and what the identifier rule finds is an identifier whatever its spelling. -/
def Grammar.byRules : Grammar := ⟨Category.all, fun _ => .identifier⟩

def mergedRule (category : Category) : Category :=
  if isListed category then .identifier else category

theorem not_listed_of_mergedRule {category : Category} (other : mergedRule category ≠ .identifier) :
    isListed category = false ∧ mergedRule category = category := by
  cases category <;> first | exact ⟨rfl, rfl⟩ | exact absurd rfl other

theorem bySpelling_subset : Grammar.bySpelling.rules ⊆ Category.all := List.filter_sublist.subset

end Grammars

section Takes

variable {before : Option Char} {category : Category} {lexeme after : List Char}

/-- Where a rule takes its lexeme, no rule before it reads anything. -/
theorem Takes.not_reads_earlier (taken : Takes Category.all before category lexeme after)
    (other : Category) (earlier : other.rank < category.rank) {otherLexeme otherAfter : List Char}
    (cut : lexeme ++ after = otherLexeme ++ otherAfter) :
    ¬ Reads other before otherLexeme otherAfter := by
  obtain ⟨front, later, rules, unmatched⟩ := taken.first
  apply unmatched other _ _ _ cut
  by_contra absent
  rw [Category.rank, Category.rank, rules, List.idxOf_append_of_notMem absent] at earlier
  have reached : (front ++ category :: later).idxOf category ≤ front.length := by
    by_cases member : category ∈ front
    · rw [List.idxOf_append_of_mem member]
      exact List.idxOf_le_length
    · rw [List.idxOf_append_of_notMem member, List.idxOf_cons_self, Nat.add_zero]
  omega

/-- Words that the rules find are classified by their spelling as they are by the rules. -/
theorem Takes.classified (taken : Takes Category.all before category lexeme after)
    (word : mergedRule category = .identifier) :
    classifyWord (String.ofList lexeme) = category := by
  have spells := taken.reads.spells
  cases category
  case datatype =>
    obtain ⟨-, -, listed⟩ := spells
    rw [classifyWord, if_pos listed]
  case keyword =>
    obtain ⟨-, -, listed⟩ := spells
    have disjoint : ∀ word ∈ reservedWords, datatypeNames.contains word = false := by decide
    rw [classifyWord, if_neg (by simpa using disjoint _ (List.contains_iff_mem.mp listed)),
      if_pos listed]
  case identifier =>
    obtain ⟨filled, members, -⟩ := spells
    rw [classifyWord_eq_identifier_iff]
    constructor
    · intro listed
      exact taken.not_reads_earlier .datatype (by decide) rfl
        ⟨⟨filled, members, List.contains_iff_mem.mpr listed⟩, taken.reads.opens, taken.reads.closes⟩
    · intro listed
      exact taken.not_reads_earlier .keyword (by decide) rfl
        ⟨⟨filled, members, List.contains_iff_mem.mpr listed⟩, taken.reads.opens, taken.reads.closes⟩
  all_goals contradiction

theorem Reads.merged (reads : Reads category before lexeme after)
    (word : mergedRule category = .identifier) : Reads .identifier before lexeme after := by
  obtain ⟨spells, opens, closes⟩ := reads
  have plain : ∀ word ∈ datatypeNames ++ reservedWords, isIdentifierWord word.toList = true := by
    decide
  have listed {words : List String} (sub : words ⊆ datatypeNames ++ reservedWords)
      (spells : IsWord (fun word => words.contains (String.ofList word)) lexeme) :
      IsWord isIdentifierWord lexeme := by
    obtain ⟨filled, members, held⟩ := spells
    have spelled := plain _ (sub (List.contains_iff_mem.mp held))
    rw [String.toList_ofList] at spelled
    exact ⟨filled, members, spelled⟩
  cases category
  case datatype => exact ⟨listed (List.subset_append_left _ _) spells, opens, closes⟩
  case keyword => exact ⟨listed (List.subset_append_right _ _) spells, opens, closes⟩
  case identifier => exact ⟨spells, opens, closes⟩
  all_goals contradiction

theorem Unmatched.mono {rules fewer : List Category} {rest : List Char}
    (unmatched : Unmatched rules before rest) (sub : fewer ⊆ rules) :
    Unmatched fewer before rest :=
  fun category member => unmatched category (sub member)

/-- Without the rules for listed words the identifier rule takes what they take, and every other
rule takes the same. -/
theorem Takes.merged (taken : Takes Category.all before category lexeme after) :
    Takes Grammar.bySpelling.rules before (mergedRule category) lexeme after := by
  by_cases word : mergedRule category = .identifier
  · rw [word]
    have reads := taken.reads.merged word
    refine ⟨reads, [.comment, .preprocessor, .atSign], Category.all.drop 6, by decide, ?_⟩
    obtain ⟨c, starts, leading⟩ := reads.starts
    obtain ⟨lexeme, rfl⟩ := List.head?_eq_some_iff.mp starts
    refine unmatched_of_leads ?_ before (lexeme ++ after)
    -- The rules before it begin with no letter.
    intro other member
    by_contra leads
    simp only [List.mem_cons, List.not_mem_nil, or_false] at member
    rcases member with rfl | rfl | rfl <;>
      · obtain rfl := beq_iff_eq.mp (Bool.not_eq_false _ ▸ leads)
        contradiction
  · obtain ⟨kept, same⟩ := not_listed_of_mergedRule word
    obtain ⟨earlier, later, rules, unmatched⟩ := taken.first
    rw [same]
    refine ⟨taken.reads, earlier.filter fun category => !isListed category,
      later.filter fun category => !isListed category, ?_, ?_⟩
    · rw [Grammar.bySpelling, rules, List.filter_append, List.filter_cons_of_pos (by simp [kept])]
    · exact unmatched.mono List.filter_sublist.subset

end Takes

section Pieces

def Piece.renamed (rename : Category → Category) : Piece → Piece
  | .lexeme category text => .lexeme (rename category) text
  | .gap text => .gap text

theorem joined_renamed (rename : Category → Category) (pieces : List Piece) :
    joined (pieces.map (Piece.renamed rename)) = joined pieces := by
  induction pieces with
  | nil => rfl
  | cons piece rest ih =>
    rw [List.map_cons, joined_cons, joined_cons, ih]
    cases piece <;> rfl

theorem Skipped.mono {rules fewer : List Category} (sub : fewer ⊆ rules) {before : Option Char}
    {text after : List Char} (skipped : Skipped rules before text after) :
    Skipped fewer before text after := by
  induction text generalizing before with
  | nil => trivial
  | cons c text ih => exact ⟨skipped.1.mono sub, ih skipped.2⟩

theorem Cut.merged {before : Option Char} {pieces : List Piece}
    (cut : Cut Category.all before pieces) :
    Cut Grammar.bySpelling.rules before (pieces.map (Piece.renamed mergedRule)) := by
  induction cut with
  | ends before => exact .ends before
  | lexeme taken goesOn ih =>
    refine .lexeme ?_ ih
    rw [joined_renamed]
    exact taken.merged
  | @gap before text rest filled skipped alone goesOn ih =>
    refine .gap filled ?_ ?_ ih
    · rw [joined_renamed]
      exact skipped.mono bySpelling_subset
    · intro other more same
      cases rest with
      | nil => contradiction
      | cons piece rest =>
        cases piece with
        | gap text => exact alone text rest rfl
        | lexeme category text => cases same

theorem pieces_bySpelling (text : List Char) :
    pieces Grammar.bySpelling.rules text =
      (pieces Category.all text).map (Piece.renamed mergedRule) :=
  pieces_eq_iff.mpr ⟨(joined_renamed _ _).trans (joined_pieces _ _), (cut_pieces _ text).merged⟩

theorem allFound_renamed (rename : Category → Category) (offset : Nat) (pieces : List Piece) :
    allFound offset (pieces.map (Piece.renamed rename)) =
      (allFound offset pieces).map fun found =>
        { found with category := rename found.category } := by
  induction pieces generalizing offset with
  | nil => rfl
  | cons piece rest ih =>
    cases piece with
    | gap text => exact ih _
    | lexeme category text => exact congrArg _ (ih _)

theorem matchedRules_bySpelling (text : List Char) :
    matchedRules Grammar.bySpelling.rules text =
      (matchedRules Category.all text).map fun found => (mergedRule found.1, found.2) := by
  have rules : Grammar.bySpelling.rules = .comment :: Grammar.bySpelling.rules.tail := by decide
  have matched : Finds Grammar.bySpelling.rules none 0 text
      (matchedRules Grammar.bySpelling.rules text) := by
    rw [rules]
    exact finds_matchesFrom [] text false
  have found := (cut_pieces Grammar.bySpelling.rules text).finds 0
  rw [joined_pieces, pieces_bySpelling, allFound_renamed, List.map_map] at found
  rw [matched.unique found, (finds_matchedRules text).unique (finds_foundIn text), foundIn,
    List.map_map]
  rfl

end Pieces

section Readings

/-- Under one grammar a lexeme of one rule is read as under another grammar one of another rule. -/
structure ReadAlike (first second : Grammar) (category other : Category) (text : List Char) :
    Prop where
  length : ∀ limits size span,
    lengthError? limits other size span = lengthError? limits category size span
  final : finalCategory second other text = finalCategory first category text
  name : plainName? second (.lexeme other text) = plainName? first (.lexeme category text)

variable {settings : Settings} {first second : Grammar}

theorem ReadAlike.read {category other : Category} {text : List Char}
    (alike : ReadAlike first second category other text) (progress : Progress) :
    progress.read { settings with grammar := second } other text =
      progress.read { settings with grammar := first } category text := by
  cases measured : lengthError? settings.limits.lexical category (String.ofList text).utf8ByteSize
      ⟨progress.place, progress.place.after text⟩ with
  | some error =>
    have again := (alike.length _ _ _).trans measured
    rw [@read_of_long { settings with grammar := first } _ _ _ progress measured,
      @read_of_long { settings with grammar := second } _ _ _ progress again]
    rfl
  | none =>
    have fits : Fits settings.limits.lexical (.lexeme category text) :=
      fun span => lengthError?_eq_none measured span
    have fitsAgain : Fits settings.limits.lexical (.lexeme other text) :=
      fun span => (alike.length _ _ _).trans (fits span)
    -- No length stops either scan, and both register the same name or none.
    cases plain : plainName? first (.lexeme category text) with
    | none =>
      have plainAgain := alike.name.trans plain
      rw [@read_of_not_plain { settings with grammar := first } progress _ _ plain fits,
        @read_of_not_plain { settings with grammar := second } progress _ _ plainAgain fitsAgain]
      dsimp only
      rw [alike.final]
      rfl
    | some name =>
      have plainAgain := alike.name.trans plain
      rw [@read_of_plain { settings with grammar := first } progress _ _ _ plain fits,
        @read_of_plain { settings with grammar := second } progress _ _ _ plainAgain fitsAgain]
      dsimp only
      rw [alike.final]
      rfl

theorem readPieces_renamed {rename : Category → Category} {pieces : List Piece}
    (alike : ∀ category text, Piece.lexeme category text ∈ pieces →
      ReadAlike first second category (rename category) text)
    (lines : Source.Lines) (progress : Progress) :
    readPieces { settings with grammar := second } lines progress
        (pieces.map (Piece.renamed rename)) =
      readPieces { settings with grammar := first } lines progress pieces := by
  induction pieces generalizing progress with
  | nil => rfl
  | cons piece rest ih =>
    have others := ih fun category text later => alike category text (List.mem_cons_of_mem _ later)
    have step : progress.advance { settings with grammar := second } lines (piece.renamed rename) =
        progress.advance { settings with grammar := first } lines piece := by
      cases piece with
      | gap text => rfl
      | lexeme category text =>
        rw [Piece.renamed, advance_lexeme, advance_lexeme,
          (alike category text List.mem_cons_self).read]
    rw [List.map_cons, readPieces, readPieces, step]
    split
    · rfl
    · exact others _

theorem scan_renamed {rename : Category → Category} {text : String}
    (cut : pieces second.rules text.toList =
      (pieces first.rules text.toList).map (Piece.renamed rename))
    (alike : ∀ category lexeme, Piece.lexeme category lexeme ∈ pieces first.rules text.toList →
      ReadAlike first second category (rename category) lexeme) :
    scan { settings with grammar := second } text =
      scan { settings with grammar := first } text := by
  unfold scan
  dsimp only
  rw [cut, readPieces_renamed alike]

end Readings

section Words

variable {text : List Char} {category : Category} {lexeme : List Char}

theorem taken_of_mem {rules : List Category}
    (member : Piece.lexeme category lexeme ∈ pieces rules text) :
    ∃ before after, Takes rules before category lexeme after := by
  obtain ⟨earlier, later, same⟩ := List.append_of_mem member
  have cut := cut_pieces rules text
  rw [same] at cut
  exact ⟨_, _, cut.takes_at⟩

theorem readAlike_bySpelling (member : Piece.lexeme category lexeme ∈ pieces Category.all text) :
    ReadAlike .standard .bySpelling category (mergedRule category) lexeme := by
  obtain ⟨before, after, taken⟩ := taken_of_mem member
  by_cases word : mergedRule category = .identifier
  · have classified := taken.classified word
    have final : finalCategory .standard category lexeme = category := by
      rw [finalCategory]
      split
      · exact classified
      · rfl
    constructor
    · intro limits size span
      rw [word]
      cases category <;> first | rfl | contradiction
    · rw [word, final]
      exact classified
    · rw [word, plainName?, plainName?, final]
      have merged : finalCategory .bySpelling .identifier lexeme = category := classified
      rw [merged]
      simp
  · rw [(not_listed_of_mergedRule word).2]
    exact ⟨fun _ _ _ => rfl, rfl, rfl⟩

theorem readAlike_byRules (member : Piece.lexeme category lexeme ∈ pieces Category.all text) :
    ReadAlike .standard .byRules category category lexeme := by
  obtain ⟨before, after, taken⟩ := taken_of_mem member
  have final :
      finalCategory .byRules category lexeme = finalCategory .standard category lexeme := by
    rw [finalCategory, finalCategory]
    split
    · rename_i plain
      subst plain
      exact (taken.classified rfl).symm
    · rfl
  refine ⟨fun _ _ _ => rfl, final, ?_⟩
  rw [plainName?, plainName?, final]

/-- A scan is the same if listed words have no rules, and if spelling decides nothing. What the
identifier rule finds beside all the others is never a listed word. -/
theorem scan_by_rules_or_spelling (settings : Settings) (text : String) :
    matchedRules Grammar.bySpelling.rules text.toList =
        (matchedRules Category.all text.toList).map (fun found => (mergedRule found.1, found.2)) ∧
      scan { settings with grammar := .bySpelling } text =
        scan { settings with grammar := .standard } text ∧
      scan { settings with grammar := .byRules } text =
        scan { settings with grammar := .standard } text ∧
      ∀ lexeme, Piece.lexeme .identifier lexeme ∈ pieces Category.all text.toList →
        String.ofList lexeme ∉ datatypeNames ∧ String.ofList lexeme ∉ reservedWords := by
  refine ⟨matchedRules_bySpelling text.toList, ?_, ?_, ?_⟩
  · exact scan_renamed (pieces_bySpelling text.toList) fun _ _ => readAlike_bySpelling
  · have renamed : Piece.renamed id = id := by
      funext piece
      cases piece <;> rfl
    have cut : pieces Grammar.byRules.rules text.toList =
        (pieces Grammar.standard.rules text.toList).map (Piece.renamed id) := by
      rw [renamed, List.map_id]
      rfl
    exact scan_renamed cut fun _ _ => readAlike_byRules
  · intro lexeme member
    obtain ⟨before, after, taken⟩ := taken_of_mem member
    exact (classifyWord_eq_identifier_iff _).mp (taken.classified rfl)

end Words

end LexReport.Scan
