import LexReport.Limits

/-! Limits written out as constants for the compiler. -/

set_option autoImplicit false

namespace LexReport.Profile

def constantLine (name width : String) (value : Nat) : String :=
  "        pub const " ++ name ++ ": " ++ width ++ " = " ++ toString value ++ ";\n"

def constantGroup (name : String) (constants : List String) : String :=
  "    pub mod " ++ name ++ " \x7b\n" ++ String.join constants ++ "    \x7d\n"

def constants (profile : String) (limits : Limits) : String :=
  "\n// Generated compile-time constants from TOML configuration\n// Profile: " ++ profile ++
    "\n// DO NOT EDIT - Generated by build.rs\n\npub mod compile_time \x7b\n" ++
    constantGroup "file_processing"
      [constantLine "MAX_FILE_SIZE" "u64" limits.files.maxFileSize,
        constantLine "LARGE_FILE_THRESHOLD" "u64" limits.files.largeFileThreshold,
        constantLine "MAX_LINE_COUNT_FOR_ANALYSIS" "usize" limits.files.maxLineCount] ++ "\n" ++
    constantGroup "lexical"
      [constantLine "MAX_TOKEN_COUNT" "usize" limits.lexical.maxTokenCount,
        constantLine "MAX_IDENTIFIER_LENGTH" "usize" limits.lexical.maxIdentifierLength,
        constantLine "MAX_STRING_SIZE" "usize" limits.lexical.maxStringSize,
        constantLine "MAX_COMMENT_LENGTH" "usize" limits.lexical.maxCommentLength,
        constantLine "MAX_REPORTED_GAPS" "usize" limits.lexical.maxReportedGaps] ++ "\n" ++
    constantGroup "symbols"
      [constantLine "MAX_SYMBOL_ENTRIES" "usize" limits.symbols.maxSymbolEntries,
        constantLine "MAX_PLAIN_IDENTIFIERS" "usize" limits.symbols.maxPlainIdentifiers] ++ "\n" ++
    constantGroup "logging"
      [constantLine "MAX_ERROR_COLLECTION" "usize" limits.notices.maxCollected,
        constantLine "MAX_LOG_MESSAGE_LENGTH" "usize" limits.notices.maxMessageLength,
        constantLine "MAX_LOG_EVENTS_PER_FILE" "usize" limits.notices.maxPerFile,
        constantLine "SECURITY_MIN_LOG_LEVEL" "u8" limits.notices.floorLevel] ++ "\x7d\n"

end LexReport.Profile
