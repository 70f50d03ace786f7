import LexReport.Notice.Stage
import LexReport.Scan.Error
import LexReport.Scan.Metrics
import LexReport.Scan.Piece
import LexReport.Source.Lines
import LexReport.Symbol.Identifiers
import LexReport.Text.Escaped
import LexReport.Token.Basic

/-! A scan: the pieces of a text are read in order, lexemes become tokens, plain identifiers are
kept, and gaps are listed and skipped. A lexeme beyond a limit ends the scan, and so does a gap
whose line cannot be drawn. -/

set_option autoImplicit false

namespace LexReport.Scan

/-- The rules that are tried, and how a word that the identifier rule finds is classified. -/
structure Grammar where
  rules : List Category
  classify : String → Category

def Grammar.standard : Grammar := ⟨Category.all, classifyWord⟩

structure Settings where
  limits : Limits := .development
  grammar : Grammar := .standard
  lexical : LexicalPreferences := {}
  symbols : SymbolPreferences := {}
  /-- The most verbose level that is told. -/
  level : Notice.Level := .debug

structure Gap where
  span : Source.Span
  text : String
  deriving DecidableEq, Repr, Inhabited

structure Gathered where
  identifiers : Symbol.Identifiers := .empty
  metrics : Metrics := {}
  gaps : Array Gap := #[]
  deriving Inhabited

structure Progress where
  place : Source.Position := .start
  tokens : Array Token := #[]
  gathered : Gathered := {}
  /-- What was said so far, in order. -/
  events : Array Notice.Event := #[]

/-- The error of a lexeme that is longer than its category allows. -/
def lengthError? (limits : LexicalLimits) (category : Category) (size : Nat)
    (span : Source.Span) : Option Error :=
  match category with
  | .datatype | .keyword | .identifier =>
    if limits.maxIdentifierLength < size then some (.identifierTooLong size span) else none
  | .stringLiteral => if limits.maxStringSize < size then some (.stringTooLarge size span) else none
  | .comment => if limits.maxCommentLength < size then some (.commentTooLong size span) else none
  | _ => none

def errorEvent (settings : Settings) (error : Error) : Notice.Event :=
  let event := Notice.Event.error error.code (error.message settings.limits)
  match error.span? with
  | some span => if settings.lexical.includePositions then event.located span else event
  | none => event

def identifierEvent (name : String) (line : UInt32) : Notice.Event :=
  (Notice.Event.debug "New identifier").details
    [("name", name), ("line", toString line.toNat)]

def gapWarning (gap : Gap) : Notice.Event :=
  ((Notice.Event.warning .unmatchedInput "Skipping unmatched input").located gap.span).detail
    "text" (Text.escaped gap.text)

/-- Warn of a gap, if that is wanted, and show its line in a note. The line is drawn only where
notes are told; the scan does not outlive a line that cannot be drawn. -/
def tellGap (settings : Settings) (lines : Source.Lines) (gap : Gap) :
    Option (Stop Error) × List Notice.Event :=
  if !settings.lexical.warnOnUnmatched then (none, [])
  else if !Notice.Level.debug.isWithin settings.level then (none, [gapWarning gap])
  else
    match lines.snippet? gap.span "unmatched input" with
    | some snippet => (none, [gapWarning gap, Notice.Event.debug snippet])
    | none => (some .panicked, [gapWarning gap])

def Progress.skip (settings : Settings) (lines : Source.Lines) (progress : Progress)
    (text : List Char) : Option (Stop Error) × Progress :=
  match progress with
  | ⟨place, tokens, ⟨identifiers, metrics, gaps⟩, events⟩ =>
    let stop := place.after text
    let metrics := metrics.addGap text
    if gaps.size < settings.limits.lexical.maxReportedGaps then
      let gap : Gap := ⟨⟨place, stop⟩, String.ofList text⟩
      let (ended, told) := tellGap settings lines gap
      (ended, ⟨stop, tokens, ⟨identifiers, metrics, gaps.push gap⟩, events ++ told.toArray⟩)
    else (none, ⟨stop, tokens, ⟨identifiers, metrics, gaps⟩, events⟩)

def register (settings : Settings) (identifiers : Symbol.Identifiers) (name : String)
    (line : UInt32) : Except Error (List Notice.Event) × Symbol.Identifiers :=
  match identifiers.insert settings.limits.symbols name line with
  | (.error error, identifiers) => (.error (.symbols error), identifiers)
  | (.ok isNew, identifiers) =>
    let told :=
      if isNew && settings.symbols.logNewIdentifiers then [identifierEvent name line] else []
    (.ok told, identifiers)

def Progress.take (settings : Settings) (progress : Progress) (category : Category)
    (lexeme : String) (span : Source.Span) : Option Error × Progress :=
  match progress with
  | ⟨_, tokens, ⟨identifiers, metrics, gaps⟩, events⟩ =>
    let metrics := metrics.addMatch settings.lexical category lexeme
    if category.isSuppressed then (none, ⟨span.last, tokens, ⟨identifiers, metrics, gaps⟩, events⟩)
    else if settings.limits.lexical.maxTokenCount ≤ tokens.size then
      let error := Error.tooManyTokens (tokens.size + 1)
      (some error,
        ⟨span.last, tokens, ⟨identifiers, metrics, gaps⟩, events.push (errorEvent settings error)⟩)
    else
      let token : Token := ⟨category, lexeme, span⟩
      (none, ⟨span.last, tokens.push token, ⟨identifiers, metrics, gaps⟩, events⟩)

/-- Read a lexeme: check its length, classify it if it is a word, and take it. -/
def Progress.read (settings : Settings) (progress : Progress) (category : Category)
    (text : List Char) : Option Error × Progress :=
  let lexeme := String.ofList text
  let span : Source.Span := ⟨progress.place, progress.place.after text⟩
  match lengthError? settings.limits.lexical category lexeme.utf8ByteSize span with
  | some error =>
    (some error, { progress with events := progress.events.push (errorEvent settings error) })
  | none =>
    let final := if category = .identifier then settings.grammar.classify lexeme else category
    if category = .identifier ∧ final = .identifier then
      match progress with
      | ⟨place, tokens, ⟨identifiers, metrics, gaps⟩, events⟩ =>
        match register settings identifiers lexeme span.first.line with
        | (.error error, identifiers) =>
          (some error,
            ⟨place, tokens, ⟨identifiers, metrics, gaps⟩, events.push (errorEvent settings error)⟩)
        | (.ok told, identifiers) =>
          Progress.take settings
            ⟨place, tokens, ⟨identifiers, metrics, gaps⟩, events ++ told.toArray⟩ final lexeme span
    else Progress.take settings progress final lexeme span

def Progress.advance (settings : Settings) (lines : Source.Lines) (progress : Progress) :
    Piece → Option (Stop Error) × Progress
  | .gap text => progress.skip settings lines text
  | .lexeme category text =>
    match progress.read settings category text with
    | (some error, after) => (some (.failed error), after)
    | (none, after) => (none, after)

def readPieces (settings : Settings) (lines : Source.Lines) (progress : Progress) :
    List Piece → Option (Stop Error) × Progress
  | [] => (none, progress)
  | piece :: rest =>
    match progress.advance settings lines piece with
    | (some stop, after) => (some stop, after)
    | (none, after) => readPieces settings lines after rest

/-- What a scan ends with. One that was stopped has no tokens, and what was gathered up to there
remains. -/
structure Scanned where
  tokens : Except (Stop Error) (List Token)
  gathered : Gathered
  events : List Notice.Event

def completionEvent (tokenTotal identifierTotal gapTotal : Nat) : Notice.Event :=
  (Notice.Event.success .tokenized "Lexical analysis completed").details
    [("tokens", toString tokenTotal), ("identifiers", toString identifierTotal),
      ("gaps", toString gapTotal)]

def scan (settings : Settings) (text : String) : Scanned :=
  let source := text.toList
  match readPieces settings (.ofText source) {} (pieces settings.grammar.rules source) with
  | (some stop, ⟨_, _, gathered, events⟩) => ⟨.error stop, gathered, events.toList⟩
  | (none, ⟨_, tokens, gathered, events⟩) =>
    let completed :=
      completionEvent tokens.size gathered.identifiers.size gathered.metrics.gaps
    ⟨.ok tokens.toList, gathered, (events.push completed).toList⟩

end LexReport.Scan
