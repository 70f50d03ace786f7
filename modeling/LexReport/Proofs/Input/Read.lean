import LexReport.Input.Read
import LexReport.Proofs.Files.Tree
import LexReport.Proofs.Notice.Stage

/-! What is read is the text of the file at the path, with uniform line endings if they are
wanted. -/

set_option autoImplicit false

namespace LexReport.Input

open Notice

variable {tree : Files.Tree} {path : String} {location : Files.Location} {content : ByteArray}

theorem resolve_of_locate (located : (locate tree path).result = .ok location) :
    tree.resolve path = .ok location := by
  unfold locate at located
  split at located
  · contradiction
  · split at located
    · contradiction
    · rename_i place resolved
      split at located
      · obtain ⟨-, -, same⟩ := Stage.bind_eq_ok_iff.mp located
        rw [resolved, Except.ok.inj same]
      · contradiction
      · contradiction

theorem decode_eq_ok_iff {text : String} :
    (decode tree path location).result = .ok text ↔ tree.textAt location = .ok text := by
  unfold decode
  split
  · rename_i decoded found
    rw [found, Stage.bind_of_ok _ rfl]
    exact ⟨fun same => congrArg _ (Except.ok.inj same), fun same => congrArg _ (Except.ok.inj same)⟩
  · rename_i failure failed
    rw [failed]
    exact iff_of_false (by simp [Stage.fail]) (by simp)

theorem text_of_read {limits : FileLimits} {preferences : FilePreferences} {elapsed : Nat}
    {source : Source} (read : (read limits preferences tree elapsed path).result = .ok source) :
    ∃ raw, tree.readText path = .ok raw ∧
      source.text =
        if preferences.normalizeLineEndings then (Text.uniformLineEndings raw).1 else raw := by
  unfold Input.read at read
  simp only [Stage.bind_eq_ok_iff] at read
  obtain ⟨-, -, location, located, size, -, -, -, raw, decoded, lineCount, -, -, -, ended⟩ := read
  obtain rfl := Except.ok.inj ended
  refine ⟨raw, ?_, apply_ite Prod.fst _ _ _⟩
  rw [Files.Tree.readText_of_resolved (resolve_of_locate located)]
  exact decode_eq_ok_iff.mp decoded

section File

variable {limits : FileLimits} {preferences : FilePreferences} {elapsed : Nat} {raw : String}

theorem locate_of_file (resolved : tree.resolve path = .ok location)
    (held : tree.node? location = some (.file content)) :
    (locate tree path).result =
      match tree.refused .canonicalize location with
      | none => .ok location
      | some failure =>
        .error (.readFailure ("Failed to resolve path '" ++ path ++ "': " ++ failure.message)) := by
  rw [locate, if_neg (Files.Tree.ne_empty_of_resolve resolved), resolved]
  dsimp only
  rw [held]
  cases tree.refused .canonicalize location <;> rfl

theorem describe_of_file (held : tree.node? location = some (.file content)) :
    (describe limits tree location).result =
      match tree.refused .inspect location with
      | none => .ok content.size
      | some failure =>
        .error (accessError "metadata for" (Files.Tree.absolutePath location) failure) := by
  rw [describe, Files.Tree.sizeAt, held]
  cases tree.refused .inspect location <;> rfl

theorem decode_of_file (held : tree.node? location = some (.file content)) :
    (decode tree path location).result =
      match tree.refused .read location, String.fromUTF8? content with
      | some failure, _ => .error (contentError (Files.Tree.absolutePath location) failure)
      | none, none => .error (.invalidEncoding (Files.Tree.absolutePath location))
      | none, some text => .ok text := by
  cases refused : tree.refused .read location with
  | some failure =>
    have failed : tree.textAt location = .error failure := by
      rw [Files.Tree.textAt, Files.Tree.contentAt, refused]
      rfl
    rw [decode, failed]
    rfl
  | none =>
    have same : tree.textAt location = Files.Tree.textOf content := by
      rw [Files.Tree.textAt, Files.Tree.contentAt_of_file refused held]
      rfl
    rw [decode, same, Files.Tree.textOf]
    cases String.fromUTF8? content <;> rfl

theorem checkSize_result (limits : FileLimits) (preferences : FilePreferences) (path : String)
    (size : Nat) :
    (checkSize limits preferences path size).result =
      if limits.maxFileSize < size then .error (.fileTooLarge size limits.maxFileSize)
      else .ok () := by
  unfold checkSize
  split
  · rfl
  · split <;> rfl

end File

end LexReport.Input
