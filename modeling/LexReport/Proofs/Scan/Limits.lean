import LexReport.Proofs.Scan.Step
import LexReport.Proofs.Symbol.FirstSeen

/-! What stops a scan: a lexeme that breaks a limit, of which the error tells the first that it
breaks, or a gap that is to be shown and cannot be. It ends well just if no piece stops it. -/

set_option autoImplicit false

namespace LexReport.Scan

open Text

section Limits

inductive TooLong (limits : LexicalLimits) (text : List Char) (span : Source.Span) :
    Category → Error → Prop where
  | word {category : Category} (word : category ∈ [.datatype, .keyword, .identifier])
      (long : limits.maxIdentifierLength < byteSize text) :
      TooLong limits text span category (.identifierTooLong (byteSize text) span)
  | string (long : limits.maxStringSize < byteSize text) :
      TooLong limits text span .stringLiteral (.stringTooLarge (byteSize text) span)
  | comment (long : limits.maxCommentLength < byteSize text) :
      TooLong limits text span .comment (.commentTooLong (byteSize text) span)

inductive Limit where
  | length
  | names
  | tokens
  deriving DecidableEq, Repr

def Limit.rank : Limit → Nat
  | length => 0
  | names => 1
  | tokens => 2

/-- A limit that a lexeme at a place breaks when some names and a number of tokens are known before
it, and the error that says so. -/
inductive Breaks (settings : Settings) (place : Source.Position) (names : List String)
    (tokenTotal : Nat) (category : Category) (text : List Char) : Limit → Error → Prop where
  | length {error : Error}
      (long : TooLong settings.limits.lexical text ⟨place, place.after text⟩ category error) :
      Breaks settings place names tokenTotal category text .length error
  | names {name : String} (plain : plainName? settings.grammar (.lexeme category text) = some name)
      (isNew : name ∉ names) (full : names.length = settings.limits.symbols.maxPlainIdentifiers) :
      Breaks settings place names tokenTotal category text .names (.symbols (.identifiersFull name))
  | tokens (kept : (finalCategory settings.grammar category text).isSuppressed = false)
      (full : tokenTotal = settings.limits.lexical.maxTokenCount) :
      Breaks settings place names tokenTotal category text .tokens
        (.tooManyTokens (settings.limits.lexical.maxTokenCount + 1))

/-- The error of the limit that is checked first among those that a lexeme breaks. -/
def Told (settings : Settings) (place : Source.Position) (names : List String) (tokenTotal : Nat)
    (category : Category) (text : List Char) (error : Error) : Prop :=
  ∃ limit, Breaks settings place names tokenTotal category text limit error ∧
    ∀ other otherError, Breaks settings place names tokenTotal category text other otherError →
      limit.rank ≤ other.rank

theorem lengthError?_eq_some_iff {limits : LexicalLimits} {category : Category} {text : List Char}
    {span : Source.Span} {error : Error} :
    lengthError? limits category (String.ofList text).utf8ByteSize span = some error ↔
      TooLong limits text span category error := by
  rw [utf8ByteSize_ofList]
  constructor
  · intro found
    cases category <;> simp only [lengthError?, Option.ite_none_right_eq_some,
      Option.some.injEq, reduceCtorEq] at found
    case datatype | keyword | identifier =>
      obtain ⟨long, rfl⟩ := found
      exact .word (by decide) long
    case stringLiteral =>
      obtain ⟨long, rfl⟩ := found
      exact .string long
    case comment =>
      obtain ⟨long, rfl⟩ := found
      exact .comment long
  · rintro (⟨word, long⟩ | ⟨long⟩ | ⟨long⟩)
    · simp only [List.mem_cons, List.not_mem_nil, or_false] at word
      rcases word with rfl | rfl | rfl <;> exact if_pos long
    · exact if_pos long
    · exact if_pos long

theorem TooLong.unique {limits : LexicalLimits} {category : Category} {text : List Char}
    {span : Source.Span} {error other : Error} (long : TooLong limits text span category error)
    (again : TooLong limits text span category other) : error = other :=
  Option.some.inj <| (lengthError?_eq_some_iff.mpr long).symm.trans
    (lengthError?_eq_some_iff.mpr again)

end Limits

section OneLexeme

variable {settings : Settings} {place : Source.Position} {names : List String} {tokenTotal : Nat}
  {category : Category} {text : List Char} {error : Error}

theorem told_of_tooLong
    (long : TooLong settings.limits.lexical text ⟨place, place.after text⟩ category error)
    {other : Error} :
    Told settings place names tokenTotal category text other ↔ other = error := by
  constructor
  · rintro ⟨limit, breaks, foremost⟩
    have first := foremost .length error (.length long)
    cases breaks with
    | length again => exact again.unique long
    | names | tokens => exact absurd first (by decide)
  · rintro rfl
    exact ⟨.length, .length long, fun _ _ _ => Nat.zero_le _⟩

theorem told_of_full_names {name : String}
    (fits : ∀ error,
      ¬ TooLong settings.limits.lexical text ⟨place, place.after text⟩ category error)
    (plain : plainName? settings.grammar (.lexeme category text) = some name)
    (isNew : name ∉ names) (full : names.length = settings.limits.symbols.maxPlainIdentifiers) :
    Told settings place names tokenTotal category text error ↔
      error = .symbols (.identifiersFull name) := by
  have breaks : Breaks settings place names tokenTotal category text .names
      (.symbols (.identifiersFull name)) := .names plain isNew full
  constructor
  · rintro ⟨limit, broken, foremost⟩
    have first := foremost .names _ breaks
    cases broken with
    | length long => exact absurd long (fits _)
    | names again =>
      rw [plain, Option.some.injEq] at again
      rw [again]
    | tokens => exact absurd first (by decide)
  · rintro rfl
    refine ⟨.names, breaks, fun other otherError broken => ?_⟩
    cases broken with
    | length long => exact absurd long (fits _)
    | names | tokens => decide

theorem told_of_room
    (fits : ∀ error,
      ¬ TooLong settings.limits.lexical text ⟨place, place.after text⟩ category error)
    (room : ∀ name, plainName? settings.grammar (.lexeme category text) = some name →
      name ∈ names ∨ names.length ≠ settings.limits.symbols.maxPlainIdentifiers) :
    Told settings place names tokenTotal category text error ↔
      (finalCategory settings.grammar category text).isSuppressed = false ∧
        tokenTotal = settings.limits.lexical.maxTokenCount ∧
        error = .tooManyTokens (settings.limits.lexical.maxTokenCount + 1) := by
  have onlyTokens : ∀ limit error,
      Breaks settings place names tokenTotal category text limit error → limit = .tokens := by
    intro limit error broken
    cases broken with
    | length long => exact absurd long (fits _)
    | names plain isNew full => exact absurd full ((room _ plain).resolve_left isNew)
    | tokens => rfl
  constructor
  · rintro ⟨limit, broken, -⟩
    obtain rfl := onlyTokens _ _ broken
    cases broken with
    | tokens kept full => exact ⟨kept, full, rfl⟩
  · rintro ⟨kept, full, rfl⟩
    refine ⟨.tokens, .tokens kept full, fun other otherError broken => ?_⟩
    rw [onlyTokens _ _ broken]

theorem register_spec {identifiers : Symbol.Identifiers} (indexed : identifiers.Indexed)
    (settings : Settings) (name : String) (line : UInt32) :
    if name ∉ identifiers.names ∧
        settings.limits.symbols.maxPlainIdentifiers ≤ identifiers.names.length then
      register settings identifiers name line =
        (.error (.symbols (.identifiersFull name)), identifiers)
    else
      ∃ told others, register settings identifiers name line = (.ok told, others) := by
  have spec := Symbol.Identifiers.insert_spec indexed settings.limits.symbols name line
  split
  · rename_i refused
    rw [if_neg refused.1, if_pos refused.2] at spec
    rw [register, spec]
  · rename_i allowed
    split at spec
    · obtain ⟨told, registered⟩ := register_succeeds spec
      exact ⟨told, _, registered⟩
    · rename_i isNew
      rw [if_neg fun full => allowed ⟨isNew, full⟩] at spec
      obtain ⟨others, inserted, -, -⟩ := spec
      obtain ⟨told, registered⟩ := register_succeeds inserted
      exact ⟨told, others, registered⟩

theorem take_fails_iff {progress : Progress} {category : Category} {lexeme : String}
    {span : Source.Span} (bound : progress.tokens.size ≤ settings.limits.lexical.maxTokenCount) :
    (progress.take settings category lexeme span).1 = some error ↔
      category.isSuppressed = false ∧
        progress.tokens.size = settings.limits.lexical.maxTokenCount ∧
        error = .tooManyTokens (settings.limits.lexical.maxTokenCount + 1) := by
  obtain ⟨place, tokens, ⟨identifiers, metrics, gaps⟩, events⟩ := progress
  unfold Progress.take
  dsimp only at bound ⊢
  split
  · rename_i suppressed
    simp [suppressed]
  · rename_i kept
    split
    · rename_i full
      have same := Nat.le_antisymm bound full
      simp [kept, same, eq_comm]
    · rename_i room
      have unlike : tokens.size ≠ settings.limits.lexical.maxTokenCount := by omega
      simp [unlike]

theorem read_of_long {progress : Progress}
    (long : lengthError? settings.limits.lexical category (String.ofList text).utf8ByteSize
      ⟨progress.place, progress.place.after text⟩ = some error) :
    progress.read settings category text =
      (some error,
        { progress with events := progress.events.push (errorEvent settings error) }) := by
  unfold Progress.read
  dsimp only
  rw [long]

/-- The ways in which a lexeme is read: it is too long, it is taken at once, or it is a plain
identifier that is refused or registered before it is taken. -/
inductive ReadCourse (settings : Settings) (progress : Progress) (category : Category)
    (text : List Char) (ended : Option Error × Progress) : Prop where
  | long {error : Error}
      (measured : lengthError? settings.limits.lexical category (String.ofList text).utf8ByteSize
        ⟨progress.place, progress.place.after text⟩ = some error)
      (stopped : ended =
        (some error, { progress with events := progress.events.push (errorEvent settings error) }))
  | other (fits : Fits settings.limits.lexical (.lexeme category text))
      (notPlain : plainName? settings.grammar (.lexeme category text) = none)
      (taken : progress.take settings (finalCategory settings.grammar category text)
        (String.ofList text) ⟨progress.place, progress.place.after text⟩ = ended)
  | refused {name : String} {error : Error} {identifiers : Symbol.Identifiers}
      (fits : Fits settings.limits.lexical (.lexeme category text))
      (plain : plainName? settings.grammar (.lexeme category text) = some name)
      (refusal : register settings progress.gathered.identifiers name progress.place.line =
        (.error error, identifiers))
      (stopped : ended = (some error, { progress with
        gathered := { progress.gathered with identifiers := identifiers }
        events := progress.events.push (errorEvent settings error) }))
  | registered {name : String} {told : List Notice.Event} {identifiers : Symbol.Identifiers}
      (fits : Fits settings.limits.lexical (.lexeme category text))
      (plain : plainName? settings.grammar (.lexeme category text) = some name)
      (registration : register settings progress.gathered.identifiers name progress.place.line =
        (.ok told, identifiers))
      (taken : Progress.take settings { progress with
          gathered := { progress.gathered with identifiers := identifiers }
          events := progress.events ++ told.toArray }
        (finalCategory settings.grammar category text) (String.ofList text)
        ⟨progress.place, progress.place.after text⟩ = ended)

theorem read_course (settings : Settings) (progress : Progress) (category : Category)
    (text : List Char) :
    ReadCourse settings progress category text (progress.read settings category text) := by
  cases measured : lengthError? settings.limits.lexical category (String.ofList text).utf8ByteSize
      ⟨progress.place, progress.place.after text⟩ with
  | some error => exact .long measured (read_of_long measured)
  | none =>
    have fits : Fits settings.limits.lexical (.lexeme category text) :=
      fun span => lengthError?_eq_none measured span
    cases plain : plainName? settings.grammar (.lexeme category text) with
    | none => exact .other fits plain (read_of_not_plain plain fits).symm
    | some name =>
      have read : progress.read settings category text = _ := read_of_plain plain fits
      split at read
      · rename_i refusal
        exact .refused fits plain refusal read
      · rename_i registration
        exact .registered fits plain registration read.symm

theorem Fits.not_tooLong (fits : Fits settings.limits.lexical (.lexeme category text))
    (span : Source.Span) (error : Error) :
    ¬ TooLong settings.limits.lexical text span category error := by
  intro long
  have measured := lengthError?_eq_some_iff.mpr long
  rw [fits span] at measured
  contradiction

theorem register_refused {identifiers others : Symbol.Identifiers}
    (indexed : identifiers.Indexed) {name : String} {line : UInt32}
    (refusal : register settings identifiers name line = (.error error, others)) :
    name ∉ identifiers.names ∧
      settings.limits.symbols.maxPlainIdentifiers ≤ identifiers.names.length ∧
      error = .symbols (.identifiersFull name) ∧ others = identifiers := by
  have spec := register_spec indexed settings name line
  split at spec
  · rename_i full
    obtain ⟨same, rfl⟩ := Prod.mk.inj (refusal.symm.trans spec)
    exact ⟨full.1, full.2, Except.error.inj same, rfl⟩
  · obtain ⟨told, registered, registration⟩ := spec
    cases refusal.symm.trans registration

theorem register_room {identifiers others : Symbol.Identifiers}
    (indexed : identifiers.Indexed) {name : String} {line : UInt32} {told : List Notice.Event}
    (registration : register settings identifiers name line = (.ok told, others)) :
    name ∈ identifiers.names ∨
      identifiers.names.length < settings.limits.symbols.maxPlainIdentifiers := by
  have spec := register_spec indexed settings name line
  split at spec
  · cases registration.symm.trans spec
  · rename_i allowed
    by_contra! full
    exact allowed full

theorem read_fails_iff {progress : Progress} (sound : Sound settings progress) :
    (progress.read settings category text).1 = some error ↔
      Told settings progress.place progress.gathered.identifiers.names progress.tokens.size category
        text error := by
  cases read_course settings progress category text with
  | long measured stopped =>
    rw [stopped, told_of_tooLong (lengthError?_eq_some_iff.mp measured), Option.some.injEq, eq_comm]
  | other fits notPlain taken =>
    rw [← taken, take_fails_iff sound.tokens,
      told_of_room (fits.not_tooLong _) (by simp [notPlain])]
  | refused fits plain refusal stopped =>
    obtain ⟨isNew, full, rfl, -⟩ := register_refused sound.indexed refusal
    rw [stopped, told_of_full_names (fits.not_tooLong _) plain isNew
      (Nat.le_antisymm sound.names full), Option.some.injEq, eq_comm]
  | registered fits plain registration taken =>
    have room := register_room sound.indexed registration
    have allowed : ∀ other, plainName? settings.grammar (.lexeme category text) = some other →
        other ∈ progress.gathered.identifiers.names ∨ progress.gathered.identifiers.names.length ≠
          settings.limits.symbols.maxPlainIdentifiers := by
      intro other same
      obtain rfl := Option.some.inj (plain.symm.trans same)
      exact room.imp_right Nat.ne_of_lt
    rw [← taken, told_of_room (fits.not_tooLong _) allowed]
    exact take_fails_iff sound.tokens

end OneLexeme

section Course

variable {settings : Settings} {lines : Source.Lines} {progress after : Progress}
  {pieces first rest : List Piece} {stop : Stop Error}

theorem readPieces_append (done : readPieces settings lines progress first = (none, after)) :
    readPieces settings lines progress (first ++ rest) = readPieces settings lines after rest := by
  induction first generalizing progress with
  | nil =>
    obtain ⟨-, rfl⟩ := Prod.mk.inj done
    rfl
  | cons piece first ih =>
    rw [readPieces] at done
    rw [List.cons_append, readPieces]
    split at done
    · exact absurd (Prod.mk.inj done).1 (by simp)
    · exact ih done

theorem readPieces_front
    (done : readPieces settings lines progress (first ++ rest) = (none, after)) :
    ∃ between, readPieces settings lines progress first = (none, between) ∧
      readPieces settings lines between rest = (none, after) := by
  induction first generalizing progress with
  | nil => exact ⟨progress, rfl, done⟩
  | cons piece first ih =>
    rw [List.cons_append, readPieces] at done
    rw [readPieces]
    split at done
    · exact absurd (Prod.mk.inj done).1 (by simp)
    · exact ih done

theorem readPieces_stops
    (stopped : readPieces settings lines progress pieces = (some stop, after)) :
    ∃ earlier piece later between, pieces = earlier ++ piece :: later ∧
      readPieces settings lines progress earlier = (none, between) ∧
      between.advance settings lines piece = (some stop, after) := by
  induction pieces generalizing progress with
  | nil => exact absurd (Prod.mk.inj stopped).1 (by simp)
  | cons piece rest ih =>
    rw [readPieces] at stopped
    split at stopped
    · rename_i here
      exact ⟨[], piece, rest, progress, rfl, rfl, here.trans stopped⟩
    · rename_i next stepped
      obtain ⟨earlier, other, later, between, rfl, done, here⟩ := ih stopped
      refine ⟨piece :: earlier, other, later, between, rfl, ?_, here⟩
      rw [readPieces, stepped]
      exact done

end Course

section FirstOffence

variable {settings : Settings} {lines : Source.Lines} {progress : Progress}

/-- The names of the plain identifiers among some pieces, each once and in the order in which they
appear. -/
def namesOf (grammar : Grammar) (pieces : List Piece) : List String :=
  (pieces.filterMap (plainName? grammar)).eraseDups

def isKept (grammar : Grammar) : Piece → Bool
  | .gap _ => false
  | .lexeme category text => !(finalCategory grammar category text).isSuppressed

def BreaksBehind (settings : Settings) (earlier : List Piece) (category : Category)
    (text : List Char) : Limit → Error → Prop :=
  Breaks settings (Source.Position.start.after (joined earlier)) (namesOf settings.grammar earlier)
    (earlier.countP (isKept settings.grammar)) category text

def ToldBehind (settings : Settings) (earlier : List Piece) (category : Category)
    (text : List Char) (error : Error) : Prop :=
  Told settings (Source.Position.start.after (joined earlier)) (namesOf settings.grammar earlier)
    (earlier.countP (isKept settings.grammar)) category text error

def NoOffence (settings : Settings) (pieces : List Piece) : Prop :=
  ∀ earlier category text later, pieces = earlier ++ .lexeme category text :: later →
    ∀ limit error, ¬ BreaksBehind settings earlier category text limit error

/-- The first lexeme of a text that breaks a limit, with the pieces before it, and the error that
tells of it. -/
structure Offends (settings : Settings) (text : List Char) (earlier : List Piece)
    (category : Category) (lexeme : List Char) (error : Error) : Prop where
  found : ∃ later, pieces settings.grammar.rules text = earlier ++ .lexeme category lexeme :: later
  earliest : NoOffence settings earlier
  told : ToldBehind settings earlier category lexeme error

theorem namesAfter_nil (grammar : Grammar) (pieces : List Piece) :
    namesAfter grammar [] pieces = namesOf grammar pieces := by
  have same : Symbol.Identifiers.note = Symbol.keepFirst id := by
    funext names name
    rw [Symbol.Identifiers.note, Symbol.keepFirst, List.map_id]
    rfl
  rw [namesAfter, namesOf, ← Symbol.firsts_id, Symbol.firsts, same]

theorem length_tokensOf (grammar : Grammar) (place : Source.Position) (pieces : List Piece) :
    (tokensOf grammar place pieces).length = pieces.countP (isKept grammar) := by
  induction pieces generalizing place with
  | nil => rfl
  | cons piece rest ih =>
    rw [tokensOf_cons, List.length_append, ih, List.countP_cons, Nat.add_comm]
    cases piece with
    | gap text => rfl
    | lexeme category text =>
      rw [token?_toList, isKept]
      cases (finalCategory grammar category text).isSuppressed <;> rfl

theorem read_fails_behind_iff {earlier : List Piece}
    (done : readPieces settings lines {} earlier = (none, progress)) {category : Category}
    {text : List Char} {error : Error} :
    (progress.read settings category text).1 = some error ↔
      ToldBehind settings earlier category text error := by
  obtain ⟨run, sound, -⟩ := readPieces_run (sound_start settings) done
  have place : progress.place = Source.Position.start.after (joined earlier) := run.place
  have names : progress.gathered.identifiers.names = namesOf settings.grammar earlier :=
    run.names.trans (namesAfter_nil _ _)
  have tokens : progress.tokens.size = earlier.countP (isKept settings.grammar) := by
    rw [← length_tokensOf settings.grammar .start, ← Array.length_toList, run.tokens]
    rfl
  rw [read_fails_iff sound, place, names, tokens]
  rfl

theorem exists_told {earlier : List Piece} {category : Category} {text : List Char}
    {limit : Limit} {error : Error}
    (breaks : BreaksBehind settings earlier category text limit error) :
    ∃ told, ToldBehind settings earlier category text told := by
  by_contra! none
  -- Without a first one there would be broken limits checked earlier and earlier.
  induction ranked : limit.rank using Nat.strong_induction_on generalizing limit error with
  | _ rank ih =>
    have notFirst := none error
    unfold ToldBehind Told at notFirst
    push Not at notFirst
    obtain ⟨other, otherError, broken, before⟩ := notFirst limit breaks
    exact ih other.rank (ranked ▸ before) broken rfl

/-- A scan breaks off at a gap behind some pieces: the gap is listed, and its line is to be shown
and cannot be drawn. -/
structure BreaksOff (settings : Settings) (lines : Source.Lines) (earlier : List Piece)
    (text : List Char) : Prop where
  listed : (gapsOf .start earlier).length < settings.limits.lexical.maxReportedGaps
  undrawn : Undrawn settings lines
    ⟨⟨Source.Position.start.after (joined earlier),
      (Source.Position.start.after (joined earlier)).after text⟩, String.ofList text⟩

inductive StopsBehind (settings : Settings) (lines : Source.Lines) (earlier : List Piece) :
    Piece → Stop Error → Prop where
  | failed {category : Category} {text : List Char} {error : Error}
      (told : ToldBehind settings earlier category text error) :
      StopsBehind settings lines earlier (.lexeme category text) (.failed error)
  | panicked {text : List Char} (breaksOff : BreaksOff settings lines earlier text) :
      StopsBehind settings lines earlier (.gap text) .panicked

theorem advance_stops_iff {earlier : List Piece}
    (done : readPieces settings lines {} earlier = (none, progress)) {piece : Piece}
    {stop : Stop Error} :
    (progress.advance settings lines piece).1 = some stop ↔
      StopsBehind settings lines earlier piece stop := by
  cases piece with
  | gap text =>
    obtain ⟨run, -, -⟩ := readPieces_run (sound_start settings) done
    have place : progress.place = Source.Position.start.after (joined earlier) := run.place
    -- What was listed so far is counted by the gaps that lie before, up to the limit.
    have gaps : progress.gathered.gaps.size =
        min settings.limits.lexical.maxReportedGaps (gapsOf .start earlier).length := by
      rw [← Array.length_toList, run.gaps]
      exact List.length_take
    rw [Progress.advance, skip_stops_iff, gaps, place]
    constructor
    · rintro ⟨rfl, listed, undrawn⟩
      exact .panicked ⟨by omega, undrawn⟩
    · intro stops
      cases stops with
      | panicked breaksOff =>
        obtain ⟨listed, undrawn⟩ := breaksOff
        exact ⟨rfl, by omega, undrawn⟩
  | lexeme category text =>
    rw [advance_lexeme, Option.map_eq_some_iff]
    constructor
    · rintro ⟨error, fails, rfl⟩
      exact .failed ((read_fails_behind_iff done).mp fails)
    · intro stops
      cases stops with
      | failed told => exact ⟨_, (read_fails_behind_iff done).mpr told, rfl⟩

def NoPanic (settings : Settings) (lines : Source.Lines) (pieces : List Piece) : Prop :=
  ∀ earlier text later, pieces = earlier ++ .gap text :: later →
    ¬ BreaksOff settings lines earlier text

theorem readPieces_ok_iff (lines : Source.Lines) {pieces : List Piece} :
    (∃ after, readPieces settings lines {} pieces = (none, after)) ↔
      NoOffence settings pieces ∧ NoPanic settings lines pieces := by
  constructor
  · rintro ⟨after, done⟩
    -- A scan that is done has gone past each piece, so none of them stops it.
    have passed {earlier later : List Piece} {piece : Piece} {stop : Stop Error}
        (cut : pieces = earlier ++ piece :: later) :
        ¬ StopsBehind settings lines earlier piece stop := by
      intro stops
      rw [cut] at done
      obtain ⟨between, front, goesOn⟩ := readPieces_front done
      have stopped := (advance_stops_iff front).mpr stops
      rw [readPieces] at goesOn
      split at goesOn
      · exact absurd (Prod.mk.inj goesOn).1 (by simp)
      · rename_i next stepped
        rw [stepped] at stopped
        contradiction
    refine ⟨fun earlier category text later cut limit error breaks => ?_,
      fun earlier text later cut breaksOff => passed cut (.panicked breaksOff)⟩
    obtain ⟨told, isTold⟩ := exists_told breaks
    exact passed cut (.failed isTold)
  · rintro ⟨noOffence, noPanic⟩
    cases ended : readPieces settings lines {} pieces with
    | mk outcome after =>
      cases outcome with
      | none => exact ⟨after, rfl⟩
      | some stop =>
        obtain ⟨earlier, piece, later, between, cut, front, stopped⟩ := readPieces_stops ended
        cases (advance_stops_iff front).mp (congrArg Prod.fst stopped) with
        | failed told =>
          obtain ⟨limit, breaks, -⟩ := told
          exact absurd breaks (noOffence earlier _ _ later cut limit _)
        | panicked breaksOff => exact absurd breaksOff (noPanic earlier _ later cut)

theorem NoOffence.front {pieces rest : List Piece} (none : NoOffence settings (pieces ++ rest)) :
    NoOffence settings pieces := by
  rintro earlier category text later rfl
  exact none earlier category text (later ++ rest) (by simp)

theorem NoPanic.front {pieces rest : List Piece} (none : NoPanic settings lines (pieces ++ rest)) :
    NoPanic settings lines pieces := by
  rintro earlier text later rfl
  exact none earlier text (later ++ rest) (by simp)

end FirstOffence

section Whole

variable {settings : Settings} {text : String} {error : Error}

theorem scan_stopped {stop : Stop Error} (stopped : (scan settings text).tokens = .error stop) :
    ∃ after, readPieces settings (.ofText text.toList) {}
      (pieces settings.grammar.rules text.toList) = (some stop, after) := by
  unfold scan at stopped
  dsimp only at stopped
  split at stopped
  · rename_i ended
    obtain rfl := Except.error.inj stopped
    exact ⟨_, ended⟩
  · contradiction

theorem scan_of_readPieces_stopped {stop : Stop Error} {after : Progress}
    (stopped : readPieces settings (.ofText text.toList) {}
      (pieces settings.grammar.rules text.toList) = (some stop, after)) :
    (scan settings text).tokens = .error stop ∧
      (scan settings text).gathered = after.gathered := by
  unfold scan
  dsimp only
  rw [stopped]
  exact ⟨rfl, rfl⟩

theorem scan_ok_iff (settings : Settings) (text : String) :
    (∃ tokens, (scan settings text).tokens = .ok tokens) ↔
      NoOffence settings (pieces settings.grammar.rules text.toList) ∧
        NoPanic settings (.ofText text.toList)
          (pieces settings.grammar.rules text.toList) := by
  rw [← readPieces_ok_iff]
  constructor
  · rintro ⟨tokens, ok⟩
    obtain ⟨after, done, -, -⟩ := scan_ok ok
    exact ⟨after, done⟩
  · rintro ⟨after, done⟩
    exact ⟨_, (scan_of_readPieces done).1⟩

theorem offends_of_failed (failed : (scan settings text).tokens = .error (.failed error)) :
    ∃ earlier category lexeme, Offends settings text.toList earlier category lexeme error ∧
      NoPanic settings (.ofText text.toList) earlier := by
  obtain ⟨after, stopped⟩ := scan_stopped failed
  obtain ⟨earlier, piece, later, between, found, front, stops⟩ := readPieces_stops stopped
  obtain ⟨noOffence, noPanic⟩ := (readPieces_ok_iff _).mp ⟨between, front⟩
  cases (advance_stops_iff front).mp (congrArg Prod.fst stops) with
  | failed told => exact ⟨earlier, _, _, ⟨⟨later, found⟩, noOffence, told⟩, noPanic⟩

/-- How a scan goes that meets an offence and has not broken off before: the pieces before it are
read, and the lexeme is not. -/
theorem Offends.course {earlier : List Piece} {category : Category} {lexeme : List Char}
    (offends : Offends settings text.toList earlier category lexeme error)
    (noPanic : NoPanic settings (.ofText text.toList) earlier) :
    ∃ between after, readPieces settings (.ofText text.toList) {} earlier = (none, between) ∧
      between.read settings category lexeme = (some error, after) ∧
      (scan settings text).tokens = .error (.failed error) ∧
      (scan settings text).gathered = after.gathered := by
  obtain ⟨later, found⟩ := offends.found
  obtain ⟨between, front⟩ :=
    (readPieces_ok_iff (.ofText text.toList)).mpr ⟨offends.earliest, noPanic⟩
  have stops : between.read settings category lexeme =
      (some error, (between.read settings category lexeme).2) :=
    Prod.ext ((read_fails_behind_iff front).mpr offends.told) rfl
  refine ⟨between, _, front, stops, scan_of_readPieces_stopped ?_⟩
  rw [found, readPieces_append front, readPieces, advance_lexeme, stops]
  rfl

/-- A scan breaks off just at the first gap that makes it, if no lexeme has broken a limit
before. -/
theorem scan_panics_iff (settings : Settings) (text : String) :
    (scan settings text).tokens = .error .panicked ↔
      ∃ earlier gap later,
        pieces settings.grammar.rules text.toList = earlier ++ .gap gap :: later ∧
        NoOffence settings earlier ∧ BreaksOff settings (.ofText text.toList) earlier gap := by
  constructor
  · intro panicked
    obtain ⟨after, stopped⟩ := scan_stopped panicked
    obtain ⟨earlier, piece, later, between, found, front, stops⟩ := readPieces_stops stopped
    obtain ⟨noOffence, -⟩ := (readPieces_ok_iff _).mp ⟨between, front⟩
    cases (advance_stops_iff front).mp (congrArg Prod.fst stops) with
    | panicked breaksOff => exact ⟨earlier, _, later, found, noOffence, breaksOff⟩
  · rintro ⟨earlier, gap, later, found, noOffence, breaksOff⟩
    cases ended : (scan settings text).tokens with
    | ok tokens =>
      obtain ⟨-, noPanic⟩ := (scan_ok_iff settings text).mp ⟨tokens, ended⟩
      exact absurd breaksOff (noPanic earlier gap later found)
    | error stop =>
      cases stop with
      | panicked => rfl
      | failed error =>
        -- The offence cannot come before the gap, nor the gap before the offence.
        obtain ⟨before, category, lexeme, offends, noPanic⟩ := offends_of_failed ended
        obtain ⟨after, again⟩ := offends.found
        obtain ⟨limit, breaks, -⟩ := offends.told
        rw [found] at again
        rcases List.append_eq_append_iff.mp again with ⟨more, rfl, same⟩ | ⟨more, rfl, same⟩
        · cases more with
          | nil => cases same
          | cons piece more =>
            obtain ⟨rfl, -⟩ := List.cons.inj same
            exact absurd breaksOff (noPanic earlier gap more rfl)
        · cases more with
          | nil => cases same
          | cons piece more =>
            obtain ⟨rfl, -⟩ := List.cons.inj same
            exact absurd breaks (noOffence before category lexeme more rfl limit error)

end Whole

end LexReport.Scan
