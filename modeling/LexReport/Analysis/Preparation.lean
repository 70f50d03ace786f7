import LexReport.Notice.Overview
import LexReport.Notice.Stage

/-! What is checked and told before the first analysis. -/

set_option autoImplicit false

namespace LexReport.Analysis

open Notice

inductive Unready where
  | noTokens
  | noIdentifiers
  deriving DecidableEq, Repr

def Unready.message : Unready → String
  | noTokens => "MAX_TOKEN_COUNT cannot be zero"
  | noIdentifiers => "MAX_IDENTIFIER_LENGTH cannot be zero"

def announceFileLimits (limits : FileLimits) : Stage Unready Unit :=
  .announce ((Event.debug "File processor compile-time configuration loaded").details
    [("max_file_size", toString limits.maxFileSize),
      ("large_file_threshold", toString limits.largeFileThreshold),
      ("max_line_count", toString limits.maxLineCount)])

def checkLexicalLimits (limits : LexicalLimits) : Stage Unready Unit :=
  if limits.maxTokenCount = 0 then ⟨[], .error .noTokens⟩
  else if limits.maxIdentifierLength = 0 then ⟨[], .error .noIdentifiers⟩
  else
    .announce ((Event.debug "Lexical limits validated").details
      [("max_token_count", toString limits.maxTokenCount),
        ("max_identifier_length", toString limits.maxIdentifierLength),
        ("max_string_size", toString limits.maxStringSize),
        ("max_comment_length", toString limits.maxCommentLength)])

/-- Reading, scanning, listing symbols, and reporting. -/
def stageTotal : Nat := 4

def prepare (limits : Limits) (build : Build) : Stage Unready Unit := do
  Stage.announce (Event.debug "Validating pipeline configuration")
  announceFileLimits limits.files
  checkLexicalLimits limits.lexical
  Stage.announce ((Event.success .systemInitialized "Pipeline validation succeeded").details
    [("stages_validated", toString stageTotal), ("build_profile", build.profile)])

end LexReport.Analysis
