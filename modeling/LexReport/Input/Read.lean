import LexReport.Config.Preferences
import LexReport.Files.Tree
import LexReport.Input.Error
import LexReport.Input.Size
import LexReport.Notice.Stage
import LexReport.Text.LineEndings
import LexReport.Text.Lowercase

/-! Reading the input: a file within limits, as text with uniform line endings. -/

set_option autoImplicit false

namespace LexReport.Input

open Notice

structure Source where
  text : String
  /-- From the root, without dots. -/
  path : String
  /-- In bytes, before line endings were made uniform. -/
  size : Nat
  extension : Option String
  lineCount : Nat
  /-- How many line endings were rewritten. -/
  rewritten : Nat
  deriving Repr, Inhabited

namespace Source

def charCount (source : Source) : Nat := source.text.length

def isBlank (source : Source) : Bool := Text.isAllBlank source.text

end Source

def locate (tree : Files.Tree) (path : String) : Stage Error Files.Location :=
  if path = "" then
    .fail (.invalidPath path) (.error .invalidPath "Empty file path provided")
  else
    match tree.resolve path with
    | .error _ =>
      .fail (.fileNotFound path) ((Event.error .fileNotFound "File not found").detail "path" path)
    | .ok location =>
      match tree.node? location, tree.refused .canonicalize location with
      | some (.file _), none => do
        Stage.announce ((Event.debug "Path validation successful").detail "canonical_path"
          (Files.Tree.absolutePath location))
        return location
      | some (.file _), some failure =>
        .fail (.readFailure ("Failed to resolve path '" ++ path ++ "': " ++ failure.message))
          ((Event.error .readFailure "Failed to canonicalize path").details
            [("path", path), ("io_error", failure.message)])
      | _, _ =>
        .fail (.invalidPath path)
          ((Event.error .invalidPath "Path is not a file").detail "path" path)

def extensionOf (location : Files.Location) : Option String :=
  (location.getLast?.bind Files.Path.extension?).map Text.lowercase

/-- The error of a file that cannot be read, or of which nothing can be known. -/
def accessError (aim absolute : String) (failure : Files.Failure) : Error :=
  if failure.isDenial then .permissionDenied absolute
  else .readFailure ("Failed to read " ++ aim ++ " '" ++ absolute ++ "': " ++ failure.message)

/-- The size of a file. It is announced, with what else is known of the file before it is read. -/
def describe (limits : FileLimits) (tree : Files.Tree) (location : Files.Location) :
    Stage Error Nat :=
  match tree.sizeAt location with
  | .ok size => do
    Stage.announce ((Event.debug "File metadata collected").details
      [("size_bytes", toString size), ("size_human", sizeText size),
        ("extension", (extensionOf location).getD "none"),
        ("is_large_file", toString (isLarge limits size))])
    return size
  | .error failure =>
    let absolute := Files.Tree.absolutePath location
    let error := accessError "metadata for" absolute failure
    .fail error ((Event.error error.code "Failed to read file metadata").details
      [("path", absolute), ("io_error", failure.message)])

def checkSize (limits : FileLimits) (preferences : FilePreferences) (path : String) (size : Nat) :
    Stage Error Unit :=
  if limits.maxFileSize < size then
    .fail (.fileTooLarge size limits.maxFileSize)
      ((Event.error .fileTooLarge "File exceeds compile-time maximum size limit").details
        [("file", path), ("size_bytes", toString size), ("size_human", sizeText size),
          ("limit_bytes", toString limits.maxFileSize)])
  else if isLarge limits size && preferences.warnOnLargeFiles then
    .announce ((Event.warning .plainWarning "Large input file").details
      [("file", path), ("size_human", sizeText size),
        ("threshold_bytes", toString limits.largeFileThreshold)])
  else pure ()

def contentError (absolute : String) (failure : Files.Failure) : Error :=
  if failure.isOfContent then .invalidEncoding absolute else accessError "file" absolute failure

def decode (tree : Files.Tree) (path : String) (location : Files.Location) : Stage Error String :=
  match tree.textAt location with
  | .ok text => do
    Stage.announce ((Event.debug "File content read successfully").details
      [("file", path), ("bytes", toString text.utf8ByteSize)])
    return text
  | .error failure =>
    let error := contentError (Files.Tree.absolutePath location) failure
    .fail error ((Event.error error.code "Failed to read file").details
      [("file", path), ("io_error", failure.message)])

def countLines (limits : FileLimits) (path text : String) : Stage Error Nat :=
  if text = "" then
    .fail .emptyFile ((Event.error .emptyFile "File is empty").detail "file" path)
  else
    let lines := Text.lineTotal text
    if limits.maxLineCount < lines then
      .fail (.tooManyLines lines limits.maxLineCount)
        ((Event.error .fileTooLarge "File exceeds maximum line count for safe analysis").details
          [("file", path), ("lines", toString lines), ("max_lines", toString limits.maxLineCount)])
    else pure lines

def millisecondsText (places elapsed : Nat) : String :=
  Decimal.fixed places elapsed 1000000

def rateText (chars elapsed : Nat) : String :=
  if elapsed = 0 then "0.00" else Decimal.fixed 2 (chars * 1000000) elapsed

def readEvent (preferences : FilePreferences) (path : String) (elapsed : Nat) (source : Source) :
    Event :=
  if preferences.logPerformance then
    (Event.success .fileProcessed "File processed successfully with performance metrics").details
      [("duration_ms", millisecondsText 3 elapsed), ("file", path),
        ("size_bytes", toString source.size), ("size_human", sizeText source.size),
        ("lines", toString source.lineCount), ("chars", toString source.charCount),
        ("crlf_normalized", toString source.rewritten),
        ("chars_per_ms", rateText source.charCount elapsed)]
  else
    (Event.success .fileProcessed "File processed successfully").details
      [("file", path), ("size_bytes", toString source.size), ("lines", toString source.lineCount)]

/-- Read the file at a path. `elapsed` is the time that reading takes, in nanoseconds. -/
def read (limits : FileLimits) (preferences : FilePreferences) (tree : Files.Tree)
    (elapsed : Nat) (path : String) : Stage Error Source := do
  Stage.announce ((Event.debug "Starting file processing").detail "file" path)
  let location ← locate tree path
  let size ← describe limits tree location
  checkSize limits preferences path size
  let raw ← decode tree path location
  let (text, rewritten) :=
    if preferences.normalizeLineEndings then Text.uniformLineEndings raw else (raw, 0)
  let lineCount ← countLines limits path text
  let source : Source :=
    ⟨text, Files.Tree.absolutePath location, size, extensionOf location, lineCount, rewritten⟩
  Stage.announce (readEvent preferences path elapsed source)
  return source

end LexReport.Input
