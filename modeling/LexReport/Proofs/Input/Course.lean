import LexReport.Proofs.Input.Read
import LexReport.Proofs.Text.LineEndings

/-! How the reading of an input goes. What is at the path tells whether it is read, and otherwise
the first check that it fails. -/

set_option autoImplicit false

namespace LexReport.Input

open Files Notice

def prepared (preferences : FilePreferences) (raw : String) : String × Nat :=
  if preferences.normalizeLineEndings then Text.uniformLineEndings raw else (raw, 0)

theorem prepared_eq_empty_iff (preferences : FilePreferences) (raw : String) :
    (prepared preferences raw).1 = "" ↔ raw = "" := by
  unfold prepared
  split
  · exact Text.uniformLineEndings_eq_empty_iff raw
  · rfl

section Course

variable (limits : FileLimits) (preferences : FilePreferences) (tree : Tree) (path : String)

/-- The ways in which reading goes, each with its result. -/
inductive Course : Except Error Source → Prop where
  | unnamed (unnamed : path = "") : Course (.error (.invalidPath path))
  | absent {failure : Failure} (named : path ≠ "") (absent : tree.resolve path = .error failure) :
      Course (.error (.fileNotFound path))
  | noFile {location : Location} (resolved : tree.resolve path = .ok location)
      (other : ∀ content, tree.node? location ≠ some (.file content)) :
      Course (.error (.invalidPath path))
  | unplaced {location : Location} {content : ByteArray} {failure : Failure}
      (resolved : tree.resolve path = .ok location)
      (held : tree.node? location = some (.file content))
      (refused : tree.refused .canonicalize location = some failure) :
      Course (.error
        (.readFailure ("Failed to resolve path '" ++ path ++ "': " ++ failure.message)))
  | unknown {location : Location} {content : ByteArray} {failure : Failure}
      (resolved : tree.resolve path = .ok location)
      (held : tree.node? location = some (.file content))
      (canonicalized : tree.refused .canonicalize location = none)
      (refused : tree.refused .inspect location = some failure) :
      Course (.error (accessError "metadata for" (Tree.absolutePath location) failure))
  | tooLarge {location : Location} {content : ByteArray}
      (resolved : tree.resolve path = .ok location)
      (held : tree.node? location = some (.file content)) (known : tree.IsKnown location)
      (large : limits.maxFileSize < content.size) :
      Course (.error (.fileTooLarge content.size limits.maxFileSize))
  | unread {location : Location} {content : ByteArray} {failure : Failure}
      (resolved : tree.resolve path = .ok location)
      (held : tree.node? location = some (.file content)) (known : tree.IsKnown location)
      (fits : content.size ≤ limits.maxFileSize)
      (refused : tree.refused .read location = some failure) :
      Course (.error (contentError (Tree.absolutePath location) failure))
  | noText {location : Location} {content : ByteArray}
      (resolved : tree.resolve path = .ok location)
      (held : tree.node? location = some (.file content)) (readable : tree.IsReadable location)
      (fits : content.size ≤ limits.maxFileSize) (invalid : String.fromUTF8? content = none) :
      Course (.error (.invalidEncoding (Tree.absolutePath location)))
  | empty {location : Location} (resolved : tree.resolve path = .ok location)
      (held : tree.node? location = some (.file "".toUTF8))
      (readable : tree.IsReadable location) :
      Course (.error .emptyFile)
  | tooLong {location : Location} {raw : String} (resolved : tree.resolve path = .ok location)
      (held : tree.node? location = some (.file raw.toUTF8)) (readable : tree.IsReadable location)
      (fits : raw.utf8ByteSize ≤ limits.maxFileSize) (filled : raw ≠ "")
      (long : limits.maxLineCount < Text.lineTotal (prepared preferences raw).1) :
      Course (.error
        (.tooManyLines (Text.lineTotal (prepared preferences raw).1) limits.maxLineCount))
  | read {location : Location} {raw : String} (resolved : tree.resolve path = .ok location)
      (held : tree.node? location = some (.file raw.toUTF8)) (readable : tree.IsReadable location)
      (fits : raw.utf8ByteSize ≤ limits.maxFileSize) (filled : raw ≠ "")
      (short : Text.lineTotal (prepared preferences raw).1 ≤ limits.maxLineCount) :
      Course (.ok ⟨(prepared preferences raw).1, Tree.absolutePath location, raw.utf8ByteSize,
        extensionOf location, Text.lineTotal (prepared preferences raw).1,
        (prepared preferences raw).2⟩)

end Course

section Steps

variable {limits : FileLimits} {preferences : FilePreferences} {tree : Tree} {path : String}
  {elapsed : Nat} {location : Location} {content : ByteArray}

theorem locate_of_unnamed (unnamed : path = "") :
    (locate tree path).result = .error (.invalidPath path) := by
  rw [locate, if_pos unnamed]
  rfl

theorem locate_of_absent {failure : Failure} (named : path ≠ "")
    (absent : tree.resolve path = .error failure) :
    (locate tree path).result = .error (.fileNotFound path) := by
  rw [locate, if_neg named, absent]
  rfl

theorem locate_of_no_file (resolved : tree.resolve path = .ok location)
    (other : ∀ content, tree.node? location ≠ some (.file content)) :
    (locate tree path).result = .error (.invalidPath path) := by
  rw [locate, if_neg (Tree.ne_empty_of_resolve resolved), resolved]
  dsimp only
  split
  · rename_i content held _
    exact absurd held (other content)
  · rename_i content failure held _
    exact absurd held (other content)
  · rfl

theorem read_of_unlocated {error : Error} (stopped : (locate tree path).result = .error error) :
    (read limits preferences tree elapsed path).result = .error error := by
  rw [Input.read, Stage.bind_of_ok _ rfl, Stage.bind_of_error _ stopped]

/-- What is left to do once it is known where a file is and how large it is. -/
theorem read_of_known (resolved : tree.resolve path = .ok location)
    (held : tree.node? location = some (.file content)) (known : tree.IsKnown location) :
    (read limits preferences tree elapsed path).result =
      if limits.maxFileSize < content.size then
        .error (.fileTooLarge content.size limits.maxFileSize)
      else
        (decode tree path location).result.bind fun raw =>
          (countLines limits path (prepared preferences raw).1).result.map fun lineCount =>
            ⟨(prepared preferences raw).1, Tree.absolutePath location, content.size,
              extensionOf location, lineCount, (prepared preferences raw).2⟩ := by
  have located : (locate tree path).result = .ok location := by
    rw [locate_of_file resolved held, known.canonicalized]
  have described : (describe limits tree location).result = .ok content.size := by
    rw [describe_of_file held, known.inspected]
  have checked := checkSize_result limits preferences path content.size
  unfold Input.read
  rw [Stage.bind_of_ok _ rfl, Stage.bind_of_ok _ located, Stage.bind_of_ok _ described]
  -- The checks come in this order, and the first that fails ends the reading.
  by_cases large : limits.maxFileSize < content.size
  · rw [if_pos large] at checked ⊢
    rw [Stage.bind_of_error _ checked]
  · rw [if_neg large] at checked ⊢
    rw [Stage.bind_of_ok _ checked]
    cases decoded : (decode tree path location).result with
    | error error =>
      rw [Stage.bind_of_error _ decoded]
      rfl
    | ok raw =>
      have uniform : (if preferences.normalizeLineEndings then Text.uniformLineEndings raw
          else (raw, 0)) = ((prepared preferences raw).1, (prepared preferences raw).2) :=
        Prod.eta (prepared preferences raw)
      rw [Stage.bind_of_ok _ decoded, uniform]
      dsimp only [Except.bind]
      cases counted : (countLines limits path (prepared preferences raw).1).result with
      | error error =>
        rw [Stage.bind_of_error _ counted]
        rfl
      | ok lineCount =>
        rw [Stage.bind_of_ok _ counted]
        rfl

theorem read_of_file {raw : String} (resolved : tree.resolve path = .ok location)
    (held : tree.node? location = some (.file raw.toUTF8)) (readable : tree.IsReadable location)
    (fits : raw.utf8ByteSize ≤ limits.maxFileSize) :
    (read limits preferences tree elapsed path).result =
      (countLines limits path (prepared preferences raw).1).result.map fun lineCount =>
        ⟨(prepared preferences raw).1, Tree.absolutePath location, raw.utf8ByteSize,
          extensionOf location, lineCount, (prepared preferences raw).2⟩ := by
  have decoded : (decode tree path location).result = .ok raw :=
    decode_eq_ok_iff.mpr (Tree.textAt_of_file readable.read held)
  have small : ¬ limits.maxFileSize < raw.toUTF8.size := Nat.not_lt.mpr fits
  rw [read_of_known resolved held readable.toIsKnown, if_neg small, decoded]
  rfl

theorem countLines_result (limits : FileLimits) (path text : String) :
    (countLines limits path text).result =
      if text = "" then .error .emptyFile
      else if limits.maxLineCount < Text.lineTotal text then
        .error (.tooManyLines (Text.lineTotal text) limits.maxLineCount)
      else .ok (Text.lineTotal text) := by
  unfold countLines
  dsimp only
  split
  · rfl
  · split <;> rfl

theorem read_of_text {raw : String} (resolved : tree.resolve path = .ok location)
    (held : tree.node? location = some (.file raw.toUTF8)) (readable : tree.IsReadable location)
    (fits : raw.utf8ByteSize ≤ limits.maxFileSize) :
    (read limits preferences tree elapsed path).result =
      if raw = "" then .error .emptyFile
      else if limits.maxLineCount < Text.lineTotal (prepared preferences raw).1 then
        .error (.tooManyLines (Text.lineTotal (prepared preferences raw).1) limits.maxLineCount)
      else .ok ⟨(prepared preferences raw).1, Tree.absolutePath location, raw.utf8ByteSize,
        extensionOf location, Text.lineTotal (prepared preferences raw).1,
        (prepared preferences raw).2⟩ := by
  rw [read_of_file resolved held readable fits, countLines_result]
  simp only [prepared_eq_empty_iff]
  split
  · rfl
  · split <;> rfl

end Steps

section Decided

variable {limits : FileLimits} {preferences : FilePreferences} {tree : Tree} {path : String}
  {result : Except Error Source}

/-- There is one way for an input to go, and reading goes it. -/
theorem read_of_course (course : Course limits preferences tree path result) (elapsed : Nat) :
    (read limits preferences tree elapsed path).result = result := by
  cases course with
  | unnamed unnamed => exact read_of_unlocated (locate_of_unnamed unnamed)
  | absent named absent => exact read_of_unlocated (locate_of_absent named absent)
  | noFile resolved other => exact read_of_unlocated (locate_of_no_file resolved other)
  | unplaced resolved held refused =>
    have stopped := locate_of_file resolved held
    rw [refused] at stopped
    exact read_of_unlocated stopped
  | unknown resolved held canonicalized refused =>
    have located := locate_of_file resolved held
    rw [canonicalized] at located
    have stopped := @describe_of_file _ _ _ limits held
    rw [refused] at stopped
    rw [Input.read, Stage.bind_of_ok _ rfl, Stage.bind_of_ok _ located,
      Stage.bind_of_error _ stopped]
  | tooLarge resolved held known large => rw [read_of_known resolved held known, if_pos large]
  | unread resolved held known fits refused =>
    have stopped := @decode_of_file _ path _ _ held
    rw [refused] at stopped
    rw [read_of_known resolved held known, if_neg (Nat.not_lt.mpr fits), stopped]
    rfl
  | noText resolved held readable fits invalid =>
    have stopped := @decode_of_file _ path _ _ held
    rw [readable.read, invalid] at stopped
    rw [read_of_known resolved held readable.toIsKnown, if_neg (Nat.not_lt.mpr fits), stopped]
    rfl
  | empty resolved held readable =>
    rw [read_of_text resolved held readable (Nat.zero_le _), if_pos rfl]
  | tooLong resolved held readable fits filled long =>
    rw [read_of_text resolved held readable fits, if_neg filled, if_pos long]
  | read resolved held readable fits filled short =>
    rw [read_of_text resolved held readable fits, if_neg filled, if_neg (Nat.not_lt.mpr short)]

theorem read_of_held_course {location : Location} {content : ByteArray}
    (resolved : tree.resolve path = .ok location)
    (held : tree.node? location = some (.file content)) :
    ∃ result, Course limits preferences tree path result := by
  -- The system is asked in this order, and its first refusal ends the course.
  cases canonicalized : tree.refused .canonicalize location with
  | some failure => exact ⟨_, .unplaced resolved held canonicalized⟩
  | none =>
    cases inspected : tree.refused .inspect location with
    | some failure => exact ⟨_, .unknown resolved held canonicalized inspected⟩
    | none =>
      have known : tree.IsKnown location := ⟨canonicalized, inspected⟩
      by_cases large : limits.maxFileSize < content.size
      · exact ⟨_, .tooLarge resolved held known large⟩
      have fits := Nat.le_of_not_lt large
      cases read : tree.refused .read location with
      | some failure => exact ⟨_, .unread resolved held known fits read⟩
      | none =>
        have readable : tree.IsReadable location := ⟨known, read⟩
        cases decoded : String.fromUTF8? content with
        | none => exact ⟨_, .noText resolved held readable fits decoded⟩
        | some raw =>
          obtain rfl := Files.Tree.toUTF8_of_fromUTF8? decoded
          by_cases empty : raw = ""
          · exact ⟨_, .empty resolved (empty ▸ held) readable⟩
          rcases Nat.lt_or_ge limits.maxLineCount (Text.lineTotal (prepared preferences raw).1)
            with long | short
          · exact ⟨_, .tooLong resolved held readable fits empty long⟩
          · exact ⟨_, .read resolved held readable fits empty short⟩

theorem read_course (limits : FileLimits) (preferences : FilePreferences) (tree : Tree)
    (elapsed : Nat) (path : String) :
    Course limits preferences tree path (read limits preferences tree elapsed path).result := by
  suffices goes : ∃ result, Course limits preferences tree path result by
    obtain ⟨result, course⟩ := goes
    rw [read_of_course course]
    exact course
  by_cases unnamed : path = ""
  · exact ⟨_, .unnamed unnamed⟩
  cases resolved : tree.resolve path with
  | error failure => exact ⟨_, .absent unnamed resolved⟩
  | ok location =>
    by_cases isFile : ∃ content, tree.node? location = some (.file content)
    · obtain ⟨content, held⟩ := isFile
      exact read_of_held_course resolved held
    · exact ⟨_, .noFile resolved fun content held => isFile ⟨content, held⟩⟩

end Decided

section Inputs

variable (limits : FileLimits) (preferences : FilePreferences) (tree : Tree) (path : String)

def IsFileAt (location : Location) (content : ByteArray) : Prop :=
  tree.resolve path = .ok location ∧ tree.node? location = some (.file content)

def IsAbsent : Prop := ∀ location content, ¬ IsFileAt tree path location content

/-- A file is at the path, and it is not to be read, or it is too large, holds no text or has too
many lines. -/
def IsUnusable : Prop :=
  ∃ location content, IsFileAt tree path location content ∧
    (¬ tree.IsReadable location ∨ limits.maxFileSize < content.size ∨
      String.fromUTF8? content = none ∨
      ∃ raw, String.fromUTF8? content = some raw ∧
        limits.maxLineCount < Text.lineTotal (prepared preferences raw).1)

def IsEmpty : Prop :=
  ∃ location, IsFileAt tree path location "".toUTF8 ∧ tree.IsReadable location

/-- A file is at the path that can be read and holds some text within the limits. -/
def IsUsable : Prop :=
  ∃ location raw, IsFileAt tree path location raw.toUTF8 ∧ tree.IsReadable location ∧ raw ≠ "" ∧
    raw.utf8ByteSize ≤ limits.maxFileSize ∧
    Text.lineTotal (prepared preferences raw).1 ≤ limits.maxLineCount

theorem accessError_ne_emptyFile (aim absolute : String) (failure : Failure) :
    accessError aim absolute failure ≠ .emptyFile ∧
      (accessError aim absolute failure).isMissing = false := by
  unfold accessError
  split <;> exact ⟨by simp, rfl⟩

theorem contentError_ne_emptyFile (absolute : String) (failure : Failure) :
    contentError absolute failure ≠ .emptyFile ∧
      (contentError absolute failure).isMissing = false := by
  unfold contentError
  split
  · exact ⟨by simp, rfl⟩
  · exact accessError_ne_emptyFile _ _ _

theorem read_cases (elapsed : Nat) :
    (∃ error, (read limits preferences tree elapsed path).result = .error error ∧
      error.isMissing = true ∧ IsAbsent tree path) ∨
    (∃ error, (read limits preferences tree elapsed path).result = .error error ∧
      error ≠ .emptyFile ∧ error.isMissing = false ∧ IsUnusable limits preferences tree path) ∨
    ((read limits preferences tree elapsed path).result = .error .emptyFile ∧
      IsEmpty tree path) ∨
    ∃ source, (read limits preferences tree elapsed path).result = .ok source ∧
      IsUsable limits preferences tree path := by
  have course := read_course limits preferences tree elapsed path
  generalize (read limits preferences tree elapsed path).result = result at course
  cases course with
  | unnamed unnamed =>
    refine .inl ⟨_, rfl, rfl, fun location content there => ?_⟩
    exact Tree.ne_empty_of_resolve there.1 unnamed
  | absent named absent =>
    refine .inl ⟨_, rfl, rfl, fun location content there => ?_⟩
    rw [IsFileAt, absent] at there
    exact nomatch there.1
  | noFile resolved other =>
    refine .inl ⟨_, rfl, rfl, fun location content there => ?_⟩
    obtain rfl := Except.ok.inj (resolved.symm.trans there.1)
    exact other content there.2
  -- From here on there is a file: what is refused of it makes it unusable, and not absent.
  | @unplaced location _ _ resolved held refused =>
    have unread : ¬ tree.IsReadable location := fun readable =>
      nomatch readable.canonicalized.symm.trans refused
    exact .inr (.inl ⟨_, rfl, by simp, rfl, _, _, ⟨resolved, held⟩, .inl unread⟩)
  | @unknown location _ _ resolved held canonicalized refused =>
    have unread : ¬ tree.IsReadable location := fun readable =>
      nomatch readable.inspected.symm.trans refused
    obtain ⟨filled, kind⟩ := accessError_ne_emptyFile _ _ _
    exact .inr (.inl ⟨_, rfl, filled, kind, _, _, ⟨resolved, held⟩, .inl unread⟩)
  | tooLarge resolved held known large =>
    exact .inr (.inl ⟨_, rfl, by simp, rfl, _, _, ⟨resolved, held⟩, .inr (.inl large)⟩)
  | @unread location _ _ resolved held known fits refused =>
    have unread : ¬ tree.IsReadable location := fun readable =>
      nomatch readable.read.symm.trans refused
    obtain ⟨filled, kind⟩ := contentError_ne_emptyFile _ _
    exact .inr (.inl ⟨_, rfl, filled, kind, _, _, ⟨resolved, held⟩, .inl unread⟩)
  | noText resolved held readable fits invalid =>
    exact .inr (.inl ⟨_, rfl, by simp, rfl, _, _, ⟨resolved, held⟩, .inr (.inr (.inl invalid))⟩)
  | empty resolved held readable =>
    exact .inr (.inr (.inl ⟨rfl, _, ⟨resolved, held⟩, readable⟩))
  | tooLong resolved held readable fits filled long =>
    exact .inr (.inl ⟨_, rfl, by simp, rfl, _, _, ⟨resolved, held⟩,
      .inr (.inr (.inr ⟨_, Tree.fromUTF8?_toUTF8 _, long⟩))⟩)
  | read resolved held readable fits filled short =>
    exact .inr (.inr (.inr ⟨_, rfl, _, _, ⟨resolved, held⟩, readable, filled, fits, short⟩))

end Inputs

end LexReport.Input
