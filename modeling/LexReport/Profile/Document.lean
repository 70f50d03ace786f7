import LexReport.Limits
import LexReport.Toml.Fields

/-! Limits from a document, which has to give each of them. -/

set_option autoImplicit false

namespace LexReport

open Toml (Fields Item)

def natural? (bound : Nat) (fields : Fields) (place : Nat) (name : String) : Option Nat :=
  (fields.get? place name).bind (Item.naturalBelow? bound)

def part? (fields : Fields) (place : Nat) (name : String) : Option Fields :=
  (fields.get? place name).bind Item.fields?

def FileLimits.ofFields? (fields : Fields) : Option FileLimits := do
  let word? := natural? UInt64.size fields
  let maxFileSize ← word? 0 "max_file_size"
  let largeFileThreshold ← word? 1 "large_file_threshold"
  let maxLineCount ← word? 2 "max_line_count_for_analysis"
  return ⟨maxFileSize, largeFileThreshold, maxLineCount⟩

def LexicalLimits.ofFields? (fields : Fields) : Option LexicalLimits := do
  let word? := natural? UInt64.size fields
  let maxTokenCount ← word? 0 "max_token_count"
  let maxIdentifierLength ← word? 1 "max_identifier_length"
  let maxStringSize ← word? 2 "max_string_size"
  let maxCommentLength ← word? 3 "max_comment_length"
  let maxReportedGaps ← word? 4 "max_reported_gaps"
  return ⟨maxTokenCount, maxIdentifierLength, maxStringSize, maxCommentLength, maxReportedGaps⟩

def SymbolLimits.ofFields? (fields : Fields) : Option SymbolLimits := do
  let word? := natural? UInt64.size fields
  let maxSymbolEntries ← word? 0 "max_symbol_entries"
  let maxPlainIdentifiers ← word? 1 "max_plain_identifiers"
  return ⟨maxSymbolEntries, maxPlainIdentifiers⟩

def NoticeLimits.ofFields? (fields : Fields) : Option NoticeLimits := do
  let word? := natural? UInt64.size fields
  let maxCollected ← word? 0 "max_error_collection"
  let maxMessageLength ← word? 1 "max_log_message_length"
  let maxPerFile ← word? 2 "max_log_events_per_file"
  let floorLevel ← natural? UInt8.size fields 3 "security_min_log_level"
  return ⟨maxCollected, maxMessageLength, maxPerFile, floorLevel⟩

def Limits.ofDocument? (entries : Toml.Entries) : Option Limits := do
  let document := Fields.named entries
  let files ← (part? document 0 "file_processing").bind FileLimits.ofFields?
  let lexical ← (part? document 1 "lexical").bind LexicalLimits.ofFields?
  let symbols ← (part? document 2 "symbols").bind SymbolLimits.ofFields?
  let notices ← (part? document 3 "logging").bind NoticeLimits.ofFields?
  return ⟨files, lexical, symbols, notices⟩

end LexReport
