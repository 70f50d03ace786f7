import LexReport.Proofs.Analysis.Course
import LexReport.Proofs.Analysis.Failure
import LexReport.Proofs.Notice.Ledger
import LexReport.Proofs.Scan.Outcome
import Mathlib.Data.List.Count

/-! What a ledger holds of an analysis that failed: its error, unless the warnings before it took
all the room. -/

set_option autoImplicit false

namespace LexReport

namespace Analysis

open Notice Files

variable {journal : Journal} {setting : Setting} {times : Times} {request : Request} {tree : Tree}
  {stop : Stop Error} {error : Error}

def Request.scope (request : Request) : FileScope := ⟨request.input, 0⟩

theorem ledger_of_runIn (cleared : journal.ledger = .empty) :
    (runIn journal setting times tree request).2.ledger =
      ⟨Ledger.single request.input (Ledger.kept setting.limits.notices
          (problemsOf setting.limits.notices journal.preferences request.scope
            (run setting times request tree).events)), [request.input]⟩ := by
  obtain ⟨preferences, scope, ledger, outlet⟩ := journal
  obtain rfl : ledger = .empty := cleared
  have told : (Journal.tellAll setting.limits.notices
      ⟨preferences, some request.scope, ⟨[], [request.input]⟩, outlet⟩
      (run setting times request tree).events).ledger = _ := ledger_of_tellAll _
  -- That the file stays at hand after a panic makes no difference to the ledger.
  unfold runIn workIn
  dsimp only
  split <;> exact told

theorem runIn_stops_iff : (runIn journal setting times tree request).1 = .error stop ↔
    (run setting times request tree).result = .error stop := by
  show outcome (workIn journal setting times tree request).1 = .error stop ↔ _
  rw [workIn_worked, outcome]
  cases (run setting times request tree).result with
  | error other =>
    show Except.error other = Except.error stop ↔ Except.error other = Except.error stop
    rw [Except.error.injEq, Except.error.injEq]
  | ok value => exact iff_of_false nofun nofun

/-- What a ledger holds of a file when some warnings and then an error were told of it: all of them
if there is room for the error, and otherwise warnings alone. -/
structure Records (limits : NoticeLimits) (path : String) (warnings : List Event) (told : Event)
    (ledger : Ledger) : Prop where
  room : warnings.length < min limits.maxPerFile limits.maxCollected →
    ledger.Shows path warnings [told]
  noRoom : min limits.maxPerFile limits.maxCollected ≤ warnings.length →
    ledger.Shows path
      (warnings.take (min limits.maxPerFile limits.maxCollected) ++
        if limits.maxPerFile < limits.maxCollected then [Ledger.marker limits] else []) []

theorem records_kept {limits : NoticeLimits} {warnings : List Event} {told : Event} (path : String)
    (warning : ∀ event ∈ warnings, event.level = .warning) (error : told.level = .error)
    (visited : List String) :
    Records limits path warnings told
      ⟨Ledger.single path (Ledger.kept limits (warnings ++ [told])), visited⟩ := by
  have length : (warnings ++ [told]).length = warnings.length + 1 := by simp
  constructor
  · intro room
    rw [Ledger.kept_of_short (by omega) (by omega)]
    exact Ledger.shows_single path warning (by simpa using error) visited
  · intro noRoom
    -- The error is one event more than there is room for, so the limits alone decide on a marker.
    have isMarked : limits.maxPerFile < limits.maxCollected ∧
        limits.maxPerFile < (warnings ++ [told]).length ↔
          limits.maxPerFile < limits.maxCollected := by
      omega
    have still : ∀ event ∈ warnings.take (min limits.maxPerFile limits.maxCollected) ++
        (if limits.maxPerFile < limits.maxCollected then [Ledger.marker limits] else []),
        event.level = .warning := by
      intro event member
      rcases List.mem_append.mp member with early | last
      · exact warning event (List.mem_of_mem_take early)
      · split at last
        · obtain rfl := List.mem_singleton.mp last
          rfl
        · contradiction
    rw [Ledger.kept, List.take_append_of_le_length noRoom]
    simp only [isMarked]
    have shows := Ledger.shows_single path still (List.forall_mem_nil _) visited
    rwa [List.append_nil] at shows

theorem records_of_run (cleared : journal.ledger = .empty) {before : List Event} {told : Event}
    (said : (run setting times request tree).events = before ++ [told]) (quiet : Quiet before)
    (level : told.level = .error) :
    Records setting.limits.notices request.input
      (problemsOf setting.limits.notices journal.preferences request.scope before)
      (Journal.stamped setting.limits.notices journal.preferences (some request.scope) told)
      (runIn journal setting times tree request).2.ledger := by
  have problem : told.isProblem = true := by
    rw [Event.isProblem, level]
    rfl
  have last : problemsOf setting.limits.notices journal.preferences request.scope [told] =
      [Journal.stamped setting.limits.notices journal.preferences (some request.scope) told] := by
    rw [problemsOf, List.filter_cons_of_pos problem]
    rfl
  rw [ledger_of_runIn cleared, said, problemsOf_append, last]
  apply records_kept
  · exact problemsOf_warnings quiet
  · rw [level_stamped, level]

/-- What a ledger that was empty holds after an analysis fails. The last that was told is the error
and nothing before it is one; it is kept behind the warnings if there is room for it. -/
theorem runIn_failed (cleared : journal.ledger = .empty)
    (failed : (runIn journal setting times tree request).1 = .error (.failed error)) :
    ∃ before told, (run setting times request tree).events = before ++ [told] ∧
      (∀ event ∈ before, event.level ≠ .error) ∧ told.level = .error ∧ told.code = error.code ∧
      Records setting.limits.notices request.input
        (problemsOf setting.limits.notices journal.preferences request.scope before)
        (Journal.stamped setting.limits.notices journal.preferences (some request.scope) told)
        (runIn journal setting times tree request).2.ledger := by
  obtain ⟨before, told, said, quiet, level, coded⟩ := run_fails (runIn_stops_iff.mp failed)
  exact ⟨before, told, said, quiet, level, coded, records_of_run cleared said quiet level⟩

theorem pieces_of_input : Path.pieces "in.c" = ["in.c"] := rfl

def bare : Tree where
  home := []
  nodes := []

theorem runIn_failed_missing_input :
    let journal : Journal := ⟨{}, none, .empty, ⟨.debug, .ofStore⟩⟩
    let ended := runIn journal {} {} bare ⟨"in.c", "out.txt"⟩
    (journal.ledger = .empty ∧ ended.1 = .error (.failed (.input (.fileNotFound "in.c")))) ∧
      ∃ told, told.code = .fileNotFound ∧ ended.2.ledger.Shows "in.c" [] [told] := by
  intro journal ended
  have unresolved : bare.resolve "in.c" = .error .notFound := by
    rw [Tree.resolve, pieces_of_input]
    decide
  obtain ⟨stopped, problems⟩ : (run {} {} ⟨"in.c", "out.txt"⟩ bare).result = _ ∧ _ = 1 :=
    run_of_unresolved (by decide) unresolved
  have failed : ended.1 = .error (.failed (.input (.fileNotFound "in.c"))) :=
    runIn_stops_iff.mpr stopped
  obtain ⟨before, told, said, quiet, level, coded, records⟩ := runIn_failed rfl failed
  -- The error is the only problem that was told.
  have alone : problemsOf Limits.development.notices {} (Request.scope ⟨"in.c", "out.txt"⟩)
      before = [] := by
    rw [said, List.countP_append] at problems
    have problem : [told].countP Event.isProblem = 1 := by
      rw [List.countP_singleton, Event.isProblem, level]
      rfl
    rw [problemsOf, ← List.length_eq_zero_iff, List.length_map, ← List.countP_eq_length_filter]
    omega
  have shows := records.room (by rw [alone]; decide)
  rw [alone] at shows
  exact ⟨⟨rfl, failed⟩, _, (code_stamped _ _ _ told).trans coded, shows⟩

section BehindGaps

variable {source : Input.Source} {scanError : Scan.Error}

theorem runIn_behind_gaps (cleared : journal.ledger = .empty)
    (wanted : setting.preferences.lexical.warnOnUnmatched = true)
    (read : (readInput setting times tree request.input).result = .ok (some source))
    (failed : (Scan.scan setting.scanSettings source.text).tokens = .error (.failed scanError))
    (many : min setting.limits.notices.maxPerFile setting.limits.notices.maxCollected ≤
      (Scan.scan setting.scanSettings source.text).gathered.gaps.size) :
    (runIn journal setting times tree request).1 = .error (.failed (.scan scanError)) ∧
      ∃ warnings, (runIn journal setting times tree request).2.ledger.Shows request.input
        warnings [] := by
  obtain ⟨stopped, before, told, said, quiet, level, warned⟩ :=
    warnings_of_unscanned wanted read failed
  have noRoom : min setting.limits.notices.maxPerFile setting.limits.notices.maxCollected ≤
      (problemsOf setting.limits.notices journal.preferences request.scope before).length := by
    rw [problemsOf, List.length_map, ← List.countP_eq_length_filter]
    exact many.trans warned
  exact ⟨runIn_stops_iff.mpr stopped, _, (records_of_run cleared said quiet level).noRoom noRoom⟩

end BehindGaps

end Analysis

section Crowded

namespace Scan

open Text

theorem takes_newline (before : Option Char) (rest : List Char) :
    Takes Category.all before .newline ['\n'] rest := by
  refine ⟨⟨rfl, trivial, trivial⟩, Category.all.take 18, [], rfl, ?_⟩
  exact unmatched_of_leads (by decide) before rest

def gapLines (count : Nat) : List Piece :=
  (List.replicate count [.gap ['$'], .lexeme .newline ['\n']]).flatten

theorem gapLines_succ (count : Nat) :
    gapLines (count + 1) = .gap ['$'] :: .lexeme .newline ['\n'] :: gapLines count := by
  rw [gapLines, List.replicate_succ, List.flatten_cons]
  rfl

theorem mem_gapLines {count : Nat} {piece : Piece} (member : piece ∈ gapLines count) :
    piece = .gap ['$'] ∨ piece = .lexeme .newline ['\n'] := by
  obtain ⟨line, isLine, inside⟩ := List.mem_flatten.mp member
  rw [List.eq_of_mem_replicate isLine] at inside
  simpa using inside

theorem length_gapsOf_gapLines (count : Nat) (place : Source.Position) :
    (gapsOf place (gapLines count)).length = count := by
  induction count generalizing place with
  | zero => rfl
  | succ count ih =>
    rw [gapLines_succ, gapsOf_cons, gapsOf_cons, List.length_append, List.length_append, ih]
    show 1 + (0 + count) = count + 1
    omega

def longWord : List Char := List.replicate 256 'a'

theorem tooLong : Limits.development.lexical.maxIdentifierLength < byteSize longWord := by
  decide +kernel

/-- Lines that hold one gap each, and a word that is too long. -/
def crowded (count : Nat) : List Piece := gapLines count ++ [.lexeme .identifier longWord]

theorem cut_crowded (count : Nat) {before : Option Char} (noWord : before.any isWordChar = false) :
    Cut Category.all before (crowded count) := by
  induction count generalizing before with
  | zero =>
    have found : firstMatch? Category.all none longWord = some (.identifier, 256) := by
      decide +kernel
    obtain ⟨lexeme, after, same, length, taken⟩ := firstMatch?_sound found
    obtain rfl : after = [] := by
      have whole := congrArg List.length same
      rw [List.length_append, length, longWord, List.length_replicate] at whole
      exact List.length_eq_zero_iff.mp (by omega)
    rw [List.append_nil] at same
    subst same
    refine .lexeme (taken.behind fun inside => ?_) (.ends _)
    exact Bool.false_ne_true (noWord.symm.trans inside.1)
  | succ count ih =>
    rw [crowded, gapLines_succ]
    refine .gap (List.cons_ne_nil _ _) ⟨unmatched_of_leads (by decide) _ _, trivial⟩ nofun ?_
    exact .lexeme (takes_newline _ _) (ih (by decide))

theorem joined_crowded (count : Nat) :
    joined (crowded count) = (List.replicate count ['$', '\n']).flatten ++ longWord := by
  induction count with
  | zero => exact List.append_nil _
  | succ count ih =>
    rw [crowded, gapLines_succ, List.replicate_succ, List.flatten_cons, List.append_assoc, ← ih]
    rfl

theorem byteSize_crowded (count : Nat) : byteSize (joined (crowded count)) = 2 * count + 256 := by
  have inLines : byteSize (List.replicate count ['$', '\n']).flatten = 2 * count := by
    induction count with
    | zero => rfl
    | succ count ih =>
      rw [List.replicate_succ, List.flatten_cons, byteSize_append, ih]
      show 2 + 2 * count = 2 * (count + 1)
      omega
  have inWord : byteSize longWord = 256 := by decide +kernel
  rw [joined_crowded, byteSize_append, inLines, inWord]

theorem readPieces_gapLines {count : Nat} (fits : count ≤ 1000) :
    ∃ after, readPieces {} (.ofText (joined (crowded count))) {} (gapLines count) =
      (none, after) := by
  -- There is neither a token nor a name, and the text is too short for a gap that cannot be shown.
  apply readPieces_succeeds _ (sound_start {})
  · intro piece member
    rcases mem_gapLines member with rfl | rfl
    · trivial
    · exact fun _ => rfl
  · have nothing : (gapLines count).countP (isKept .standard) = 0 := by
      refine List.countP_eq_zero.mpr fun piece member => ?_
      rcases mem_gapLines member with rfl | rfl <;> decide
    have noTokens := (length_tokensOf .standard .start (gapLines count)).trans nothing
    show (tokensOf .standard .start (gapLines count)).length ≤ 1000000
    rw [noTokens]
    exact Nat.zero_le _
  · have nothing : (gapLines count).filterMap (plainName? .standard) = [] := by
      refine List.filterMap_eq_nil_iff.mpr fun piece member => ?_
      rcases mem_gapLines member with rfl | rfl <;> rfl
    show (namesAfter .standard [] (gapLines count)).length ≤ 100000
    rw [namesAfter, nothing]
    exact Nat.zero_le _
  · have short : byteSize (joined (crowded count)) < UInt32.size - 1 := by
      rw [byteSize_crowded]
      exact lt_of_le_of_lt (show 2 * count + 256 ≤ 2256 by omega) (by decide)
    intro gap member
    refine drawn_of_short short gap ?_
    rw [crowded, gapsOf_append]
    exact List.mem_append_left _ member

theorem readPieces_crowded {count : Nat} (fits : count ≤ 1000) :
    ∃ error after, readPieces {} (.ofText (joined (crowded count))) {} (crowded count) =
      (some (.failed error), after) ∧ after.gathered.gaps.size = count := by
  obtain ⟨between, front⟩ := readPieces_gapLines fits
  have long : lengthError? ({} : Settings).limits.lexical .identifier
      (String.ofList longWord).utf8ByteSize ⟨between.place, between.place.after longWord⟩ =
        some (.identifierTooLong (byteSize longWord)
          ⟨between.place, between.place.after longWord⟩) :=
    lengthError?_eq_some_iff.mpr (.word (by decide) tooLong)
  generalize Source.Lines.ofText (joined (crowded count)) = lines at front ⊢
  have ended := @readPieces_append _ _ _ _ _ [.lexeme .identifier longWord] front
  rw [readPieces, Progress.advance, read_of_long long] at ended
  obtain ⟨run, -, -⟩ := readPieces_run (sound_start {}) front
  have listed : between.gathered.gaps.toList =
      [] ++ (gapsOf .start (gapLines count)).take 1000 := run.gaps
  refine ⟨_, _, ended, ?_⟩
  show between.gathered.gaps.size = count
  rw [← Array.length_toList, listed, List.nil_append, List.length_take, length_gapsOf_gapLines]
  omega

theorem scan_crowded {count : Nat} (fits : count ≤ 1000) :
    (∃ error, (scan {} (String.ofList (joined (crowded count)))).tokens =
        .error (.failed error)) ∧
      (scan {} (String.ofList (joined (crowded count)))).gathered.gaps.size = count := by
  have cut : pieces Category.all (String.ofList (joined (crowded count))).toList =
      crowded count := by
    rw [String.toList_ofList]
    exact pieces_eq_iff.mpr ⟨rfl, cut_crowded count rfl⟩
  obtain ⟨error, after, ended, listed⟩ := readPieces_crowded fits
  have stopped : readPieces {} (.ofText (String.ofList (joined (crowded count))).toList) {}
      (pieces Category.all (String.ofList (joined (crowded count))).toList) =
        (some (.failed error), after) := by
    rw [cut, String.toList_ofList, ended]
  obtain ⟨failed, gathered⟩ := scan_of_readPieces_stopped stopped
  exact ⟨⟨error, failed⟩, by rw [gathered, listed]⟩

end Scan

namespace Analysis

open Notice Files Scan

variable {tree : Tree} {location : Location} {path : String} {count : Nat}

theorem readInput_crowded (resolved : tree.resolve path = .ok location)
    (held : tree.node? location = some (.file (String.ofList (joined (crowded count))).toUTF8))
    (readable : tree.IsReadable location) (fits : count ≤ 1000) (times : Times) :
    ∃ source, (readInput {} times tree path).result = .ok (some source) ∧
      source.text = String.ofList (joined (crowded count)) := by
  have bytes : (String.ofList (joined (crowded count))).utf8ByteSize = 2 * count + 256 := by
    rw [Text.utf8ByteSize_ofList, byteSize_crowded]
  have small : (String.ofList (joined (crowded count))).utf8ByteSize ≤ 10485760 := by omega
  have filled : String.ofList (joined (crowded count)) ≠ "" := by
    intro empty
    rw [empty] at bytes
    have nothing : "".utf8ByteSize = 0 := rfl
    omega
  have plain : '\r' ∉ (String.ofList (joined (crowded count))).toList := by
    rw [String.toList_ofList, joined_crowded]
    intro member
    rcases List.mem_append.mp member with inLines | inWord
    · obtain ⟨line, isLine, inside⟩ := List.mem_flatten.mp inLines
      rw [List.eq_of_mem_replicate isLine] at inside
      exact absurd inside (by decide)
    · exact absurd (List.eq_of_mem_replicate inWord) (by decide)
  have same : Input.prepared {} (String.ofList (joined (crowded count))) =
      (String.ofList (joined (crowded count)), 0) := Text.uniformLineEndings_of_plain plain
  -- Each gap has a line of its own, which is all that adds to the number of lines.
  have breaks : (String.ofList (joined (crowded count))).toList.count '\n' = count := by
    have inWord : longWord.count '\n' = 0 := by decide +kernel
    rw [String.toList_ofList, joined_crowded, List.count_append, inWord]
    simp [List.count_flatten]
  have short : Text.lineTotal (Input.prepared {} (String.ofList (joined (crowded count)))).1 ≤
      Limits.development.files.maxLineCount := by
    have few := Text.lineTotal_le (String.ofList (joined (crowded count)))
    rw [same]
    show Text.lineTotal (String.ofList (joined (crowded count))) ≤ 100000
    omega
  have read : (Input.read Limits.development.files {} tree times.reading path).result = _ :=
    Input.read_of_course (.read resolved held readable small filled short) _
  exact ⟨_, readInput_of_read read, congrArg Prod.fst same⟩

/-- Behind as many gaps as events are kept for a file, the error at which an analysis fails is kept
nowhere. -/
theorem error_behind_gaps :
    let text := String.ofList ((List.replicate 500 ['$', '\n']).flatten ++ List.replicate 256 'a')
    let tree : Tree := { home := [], nodes := [(["in.c"], .file text.toUTF8)] }
    let journal : Journal := ⟨{}, none, .empty, ⟨.debug, .ofStore⟩⟩
    let ended := runIn journal {} {} tree ⟨"in.c", "out.txt"⟩
    journal.ledger = .empty ∧ (∃ error, ended.1 = .error (.failed error)) ∧
      (∀ event ∈ ended.2.ledger.eventsOf "in.c", event.level ≠ .error) ∧
      ended.2.ledger.totals.errors = 0 ∧ ∃ warnings, ended.2.ledger.Shows "in.c" warnings [] := by
  intro text tree journal
  have same : text = String.ofList (joined (crowded 500)) :=
    congrArg String.ofList (joined_crowded 500).symm
  have resolved (content : ByteArray) :
      Tree.resolve { home := [], nodes := [(["in.c"], .file content)] } "in.c" =
        .ok ["in.c"] := by
    rw [Tree.resolve, pieces_of_input]
    rfl
  have held : tree.node? ["in.c"] =
      some (.file (String.ofList (joined (crowded 500))).toUTF8) := by
    rw [← same]
    rfl
  have readable : tree.IsReadable ["in.c"] := ⟨⟨rfl, rfl⟩, rfl⟩
  obtain ⟨source, read, isText⟩ := readInput_crowded (resolved _) held readable (by decide) {}
  obtain ⟨⟨error, failed⟩, listed⟩ := scan_crowded (show 500 ≤ 1000 by decide)
  rw [← isText] at failed listed
  obtain ⟨stopped, warnings, shows⟩ : (runIn journal {} {} tree ⟨"in.c", "out.txt"⟩).1 =
      .error (.failed (.scan error)) ∧ ∃ warnings, _ :=
    runIn_behind_gaps rfl rfl read failed listed.ge
  refine ⟨rfl, ⟨_, stopped⟩, ?_, shows.errorTotal, warnings, shows⟩
  rw [shows.events, List.append_nil]
  intro event member
  rw [shows.warning event member]
  decide

end Analysis

end Crowded

end LexReport
