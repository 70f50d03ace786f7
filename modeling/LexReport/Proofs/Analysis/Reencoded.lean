import LexReport.Proofs.Analysis.Outputs
import LexReport.Proofs.Files.Shape
import LexReport.Proofs.Text.LineEndings

/-! How the lines of a file end makes no difference to its analysis, if line endings are made
uniform: all that changes is the size of the file and how many line endings were rewritten. -/

set_option autoImplicit false

namespace LexReport

/-- A source as it is read from a file of some size in which some line endings were rewritten. -/
def Input.Source.readFrom (size rewritten : Nat) (source : Source) : Source :=
  { source with size := size, rewritten := rewritten }

namespace Analysis

open Files

def Result.readFrom (size rewritten : Nat) (result : Result) : Result :=
  { result with source := result.source.readFrom size rewritten }

variable {setting : Setting} {times others : Times} {request : Request} {first second : Tree}

section Steps

theorem deliver_alike (shape : first.SameShape second) (path text other : String) :
    Alike Eq (Report.deliver path text first).left (Report.deliver path other second).left := by
  rw [deliver_left, deliver_left]
  rcases shape.writeText text other path with ⟨failure, here, there⟩ |
    ⟨after, later, here, there, shape⟩
  · rw [here, there]
    exact ⟨.failed _, shape⟩
  · rw [here, there]
    exact ⟨.done rfl, shape⟩

theorem writeReport_alike (shape : first.SameShape second) (preferences : ReportPreferences)
    (output text : String) (findings : Findings) :
    Alike Eq (writeReport preferences output text findings first).left
      (writeReport preferences output text findings second).left := by
  unfold writeReport
  split
  · exact Work.bind_alike (Work.mapError_alike (deliver_alike shape output _ _) Error.report)
      fun _ _ _ _ _ shape => ⟨.done rfl, shape⟩
  · exact Work.bind_alike (Work.announce_alike shape _ _)
      fun _ _ _ _ _ shape => ⟨.done rfl, shape⟩

theorem writeSummary_alike (shape : first.SameShape second) (setting : Setting)
    (times others : Times) (request : Request) (findings : Findings) :
    Alike Eq (writeSummary setting times request findings first).left
      (writeSummary setting others request findings second).left := by
  unfold writeSummary
  cases setting.preferences.report.summaryPath with
  | none => exact ⟨.done rfl, shape⟩
  | some path =>
    refine Work.bind_alike (Work.attempt_alike (deliver_alike shape path _ _)) ?_
    rintro written _ rfl first second shape
    exact ⟨.done rfl, shape⟩

theorem report_alike (shape : first.SameShape second) (setting : Setting) (times others : Times)
    (request : Request) {source other : Input.Source} (same : other.text = source.text)
    (findings : Findings) :
    Alike (fun result another => result.source = source ∧ another = { result with source := other })
      (report setting times request source findings first).left
      (report setting others request other findings second).left := by
  unfold report
  rw [same]
  refine Work.bind_alike (writeReport_alike shape _ _ _ findings) ?_
  rintro isReportWritten _ rfl first second shape
  refine Work.bind_alike (writeSummary_alike shape setting times others request findings) ?_
  rintro summaryPath _ rfl first second shape
  refine Work.bind_alike (Work.announce_alike shape _ _) ?_
  rintro _ _ _ first second shape
  exact ⟨.done ⟨rfl, rfl⟩, shape⟩

theorem run_alike (shape : first.SameShape second) {size rewritten : Nat}
    (read : SameEnd (fun found other => other = found.map (Input.Source.readFrom size rewritten))
      (readInput setting times first request.input).result
      (readInput setting others second request.input).result) :
    Alike (fun result other => other = result.map (Result.readFrom size rewritten))
      (run setting times request first).left (run setting others request second).left := by
  unfold run
  rw [Work.bind_left, Work.bind_left, Work.announce_left, Work.announce_left]
  dsimp only
  refine Work.bind_alike (Work.mapError_alike (Work.look_alike shape read) Stop.failed) ?_
  rintro found other rfl first second shape
  cases found with
  | none => exact ⟨.done rfl, shape⟩
  | some source =>
    refine Work.bind_alike (Work.announce_alike shape _ _) ?_
    rintro _ _ _ first second shape
    refine Work.bind_alike (Work.ofStage_alike shape _) ?_
    rintro findings _ rfl first second shape
    have same : (source.readFrom size rewritten).text = source.text := rfl
    refine Work.bind_alike
      (Work.mapError_alike (report_alike shape setting times others request same findings)
        Stop.failed) ?_
    rintro result _ ⟨rfl, rfl⟩ first second shape
    exact ⟨.done rfl, shape⟩

end Steps

section Encodings

variable {tree : Tree} {location : Location} {content : ByteArray} {text raw other : String}
  {rewritten more : Nat} {result : Result}

/-- Whether a file is to be read, and what for if it is not, is the same for all that it may
hold. -/
theorem isReadable_or_refused (resolved : tree.resolve request.input = .ok location)
    (isFile : tree.node? location = some (.file content)) : tree.IsReadable location ∨
    ∃ error, error ≠ .emptyFile ∧ ∀ (raw : String) (times : Times),
      raw.utf8ByteSize ≤ setting.limits.files.maxFileSize →
      (Input.read setting.limits.files setting.preferences.files
        (tree.put location (.file raw.toUTF8)) times.reading request.input).result =
          .error error := by
  have filled := Tree.ne_root_of_file isFile
  have stillResolved (raw : String) :
      (tree.put location (.file raw.toUTF8)).resolve request.input = .ok location :=
    (Tree.sameShape_put isFile raw.toUTF8).resolve request.input ▸ resolved
  cases canonicalized : tree.refused .canonicalize location with
  | some failure =>
    exact .inr ⟨_, by simp, fun raw times fits => Input.read_of_course
      (.unplaced (stillResolved raw) (Tree.node?_put_self filled) canonicalized) _⟩
  | none =>
    cases inspected : tree.refused .inspect location with
    | some failure =>
      exact .inr ⟨_, (Input.accessError_ne_emptyFile _ _ _).1, fun raw times fits =>
        Input.read_of_course (.unknown (stillResolved raw) (Tree.node?_put_self filled)
          canonicalized inspected) _⟩
    | none =>
      cases read : tree.refused .read location with
      | some failure =>
        exact .inr ⟨_, (Input.contentError_ne_emptyFile _ _).1, fun raw times fits =>
          Input.read_of_course (.unread (stillResolved raw) (Tree.node?_put_self filled)
            ⟨canonicalized, inspected⟩ fits read) _⟩
      | none => exact .inl ⟨⟨canonicalized, inspected⟩, read⟩

section Uniform

variable (uniform : setting.preferences.files.normalizeLineEndings = true)
  (resolved : tree.resolve request.input = .ok location)
  (isFile : tree.node? location = some (.file content))
include uniform resolved isFile

theorem read_put (readable : tree.IsReadable location)
    (fits : raw.utf8ByteSize ≤ setting.limits.files.maxFileSize)
    (same : Text.uniformLineEndings raw = (text, rewritten)) :
    (Input.read setting.limits.files setting.preferences.files
        (tree.put location (.file raw.toUTF8)) times.reading request.input).result =
      (Input.countLines setting.limits.files request.input text).result.map fun lineCount =>
        ⟨text, Tree.absolutePath location, raw.utf8ByteSize, Input.extensionOf location, lineCount,
          rewritten⟩ := by
  have shape := Tree.sameShape_put isFile raw.toUTF8
  have filled := Tree.ne_root_of_file isFile
  have still : (tree.put location (.file raw.toUTF8)).IsReadable location :=
    ⟨⟨readable.canonicalized, readable.inspected⟩, readable.read⟩
  have prepared : Input.prepared setting.preferences.files raw = (text, rewritten) := by
    rw [Input.prepared, if_pos uniform, same]
  rw [Input.read_of_file (shape.resolve request.input ▸ resolved) (Tree.node?_put_self filled)
    still fits, prepared]

theorem source_of_run (fits : raw.utf8ByteSize ≤ setting.limits.files.maxFileSize)
    (same : Text.uniformLineEndings raw = (text, rewritten))
    (ended : (run setting times request (tree.put location (.file raw.toUTF8))).result =
      .ok (some result)) :
    result.source.text = text ∧ result.source.rewritten = rewritten := by
  have course := run_course setting times request (tree.put location (.file raw.toUTF8))
  rw [ended] at course
  generalize (run setting times request (tree.put location (.file raw.toUTF8))).tree = after
    at course
  cases course with
  | completed read examined report summary =>
    have source := readInput_eq_some read
    rcases isReadable_or_refused resolved isFile with readable | ⟨error, -, fails⟩
    · rw [read_put uniform resolved isFile readable fits same] at source
      cases counted : (Input.countLines setting.limits.files request.input text).result with
      | error error =>
        rw [counted] at source
        cases source
      | ok lineCount =>
        rw [counted] at source
        rw [← Except.ok.inj source]
        exact ⟨rfl, rfl⟩
    · rw [fails raw times fits] at source
      cases source

theorem run_same_text (fits : raw.utf8ByteSize ≤ setting.limits.files.maxFileSize)
    (otherFits : other.utf8ByteSize ≤ setting.limits.files.maxFileSize)
    (same : Text.uniformLineEndings raw = (text, rewritten))
    (otherSame : Text.uniformLineEndings other = (text, more)) (times others : Times) :
    Alike (fun result another => another = result.map (Result.readFrom other.utf8ByteSize more))
      (run setting times request (tree.put location (.file raw.toUTF8))).left
      (run setting others request (tree.put location (.file other.toUTF8))).left := by
  have filled := Tree.ne_root_of_file isFile
  have shape : (tree.put location (.file raw.toUTF8)).SameShape
      (tree.put location (.file other.toUTF8)) :=
    (Tree.SameShape.refl tree).put filled (.file _ _)
  refine run_alike shape ?_
  rw [readInput_result, readInput_result]
  rcases isReadable_or_refused resolved isFile with readable | ⟨error, notEmpty, fails⟩
  · rw [read_put uniform resolved isFile readable fits same,
      read_put uniform resolved isFile readable otherFits otherSame]
    cases (Input.countLines setting.limits.files request.input text).result with
    | ok lineCount => exact .done rfl
    | error error => cases error <;> first | exact .failed _ | exact .done rfl
  · rw [fails raw times fits, fails other others otherFits]
    cases error with
    | emptyFile => exact absurd rfl notEmpty
    | _ => exact .failed _

end Uniform

theorem result_of_alike {left right : Except (Stop Error) (Option Result) × Tree}
    {f : Result → Result}
    (alike : Alike (fun result another => another = result.map f) left right) :
    right.1 = left.1.map (Option.map f) := by
  obtain ⟨ends, -⟩ := alike
  generalize left.1 = result at ends
  generalize right.1 = another at ends
  cases ends with
  | failed error => rfl
  | done same => rw [same]; rfl

/-- The report is in its place afterwards, unless the summary was put there. -/
def Reports (request : Request) (tree after : Tree) (result : Result) : Prop :=
  result.isReportWritten = true → ∃ place, tree.target request.output = .ok place ∧
    after.resolve request.output = .ok place ∧
    ((∀ path, result.summaryPath = some path → tree.target path ≠ .ok place) →
      after.node? place = some (.rewritten result.report.toUTF8 (tree.node? place)))

theorem reports_of_run (isFile : tree.node? location = some (.file content)) {held : ByteArray}
    (ended : (run setting times request (tree.put location (.file held))).result =
      .ok (some result)) :
    Reports request tree (run setting times request (tree.put location (.file held))).tree
      result := by
  have shape := Tree.sameShape_put isFile held
  have filled := Tree.ne_root_of_file isFile
  have course := run_course setting times request (tree.put location (.file held))
  rw [ended] at course
  intro isWritten
  obtain ⟨place, aimed, found, written⟩ := (delivered_of_course course).report isWritten
  rw [← shape.target_eq] at aimed
  refine ⟨place, aimed, found, fun apart => ?_⟩
  rw [written fun path isThere => shape.target_eq path ▸ apart path isThere]
  -- What is written takes the place of the input whatever that held.
  by_cases here : place = location
  · rw [here, Tree.node?_put_self filled, isFile]
    rfl
  · rw [Tree.node?_put_of_ne here]

/-- A file whose line breaks are written in some other way is analysed as before. -/
theorem run_reencoded (uniform : setting.preferences.files.normalizeLineEndings = true)
    (resolved : tree.resolve request.input = .ok location)
    (isFile : tree.node? location = some (.file content)) (plain : '\r' ∉ text.toList)
    {endings : Nat → Text.LineEnding} (apart : Text.Apart endings text.toList)
    (fits : (Text.reencoded endings text).utf8ByteSize ≤ setting.limits.files.maxFileSize)
    (times others : Times) :
    let before := run setting times request (tree.put location (.file text.toUTF8))
    let after :=
      run setting others request (tree.put location (.file (Text.reencoded endings text).toUTF8))
    after.result = before.result.map (Option.map (Result.readFrom
        (Text.reencoded endings text).utf8ByteSize
        (Text.rewrites endings (text.toList.count '\n')))) ∧
      ∀ result, before.result = .ok (some result) →
        result.source.text = text ∧ result.source.rewritten = 0 ∧
          Reports request tree before.tree result ∧ Reports request tree after.tree result := by
  dsimp only
  have same := Text.uniformLineEndings_of_plain plain
  have otherSame := Text.uniformLineEndings_reencoded plain apart
  have plainFits : text.utf8ByteSize ≤ setting.limits.files.maxFileSize := by
    refine Nat.le_trans ?_ fits
    have longer := Text.byteSize_le_written endings text.toList
    rwa [← Text.utf8ByteSize_ofList, ← Text.utf8ByteSize_ofList, String.ofList_toList] at longer
  have results := result_of_alike
    (run_same_text uniform resolved isFile plainFits fits same otherSame times others)
  refine ⟨results, ?_⟩
  intro result ended
  obtain ⟨text, rewritten⟩ := source_of_run uniform resolved isFile plainFits same ended
  refine ⟨text, rewritten, reports_of_run isFile ended, ?_⟩
  -- The other result lists the same tokens and symbols, so its report is the same.
  have again := reports_of_run isFile
    (results.trans (congrArg (Except.map (Option.map (Result.readFrom _ _))) ended))
  exact again

/-- A return, a pair right behind it, and a line feed. -/
theorem run_reencoded_mixed :
    let tree : Tree := { home := [], nodes := [(["in.c"], .file .empty)] }
    let request : Request := ⟨"in.c", "out.txt"⟩
    let text := String.ofList ['a', '\n', '\n', 'b', '\n']
    let endings (i : Nat) := [Text.LineEnding.lone, .pair].getD i .feed
    let before := run {} {} request (tree.put ["in.c"] (.file text.toUTF8))
    let after := run {} ⟨⟨60, 0⟩, 7, 9⟩ request (tree.put ["in.c"]
      (.file (String.ofList ['a', '\r', '\r', '\n', 'b', '\n']).toUTF8))
    (({} : Setting).preferences.files.normalizeLineEndings = true ∧
        tree.resolve request.input = .ok ["in.c"] ∧ tree.node? ["in.c"] = some (.file .empty) ∧
          '\r' ∉ text.toList ∧ Text.Apart endings text.toList ∧
            (Text.reencoded endings text).utf8ByteSize ≤
              ({} : Setting).limits.files.maxFileSize) ∧
      after.result = before.result.map (Option.map (Result.readFrom 6 2)) ∧
        ∀ result, before.result = .ok (some result) →
          result.source.text = text ∧ result.source.rewritten = 0 ∧
            Reports request tree before.tree result ∧ Reports request tree after.tree result := by
  intro tree request text endings
  have resolved : tree.resolve request.input = .ok ["in.c"] := by
    simp only [tree, request]
    rfl
  have isFile : tree.node? ["in.c"] = some (.file .empty) := rfl
  have plain : '\r' ∉ text.toList := by
    rw [String.toList_ofList]
    decide
  have apart : Text.Apart endings text.toList := by
    intro front back _ alone
    -- Only the first break is a return alone, and the one after it is a pair.
    have first : front.count '\n' = 0 := by
      rcases counted : front.count '\n' with - | - | more
      · rfl
      · rw [counted] at alone
        cases alone
      · rw [counted] at alone
        cases alone
    rw [first]
    decide
  have encoded : Text.reencoded endings text =
      String.ofList ['a', '\r', '\r', '\n', 'b', '\n'] := by
    rw [Text.reencoded, String.toList_ofList]
    rfl
  have breaks : text.toList.count '\n' = 3 := by
    rw [String.toList_ofList]
    decide
  have fits : (Text.reencoded endings text).utf8ByteSize ≤
      ({} : Setting).limits.files.maxFileSize := by
    rw [encoded]
    decide
  have alike := run_reencoded rfl resolved isFile plain apart fits {} ⟨⟨60, 0⟩, 7, 9⟩
  rw [encoded, breaks] at alike
  exact ⟨⟨rfl, resolved, isFile, plain, apart, fits⟩, alike⟩

end Encodings

end Analysis

end LexReport
