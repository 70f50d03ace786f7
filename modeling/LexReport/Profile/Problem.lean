import LexReport.Limits

/-! Limits that no build may have, and those that a build for production may not have. -/

set_option autoImplicit false

namespace LexReport.Profile

inductive Problem where
  | fileSizeTooLarge
  | thresholdAboveFileSize
  | tokenCountTooLarge
  | identifierLengthZero
  | floorLevelTooHigh
  | fileSizeTooLargeForProduction
  | symbolEntriesTooManyForProduction
  deriving DecidableEq, Repr

namespace Problem

def message : Problem → String
  | fileSizeTooLarge => "SECURITY: max_file_size exceeds absolute maximum"
  | thresholdAboveFileSize => "SECURITY: large_file_threshold must not exceed max_file_size"
  | tokenCountTooLarge => "SECURITY: max_token_count exceeds absolute maximum"
  | identifierLengthZero => "SECURITY: max_identifier_length must be non-zero"
  | floorLevelTooHigh => "SECURITY: security_min_log_level too high (max: 2)"
  | fileSizeTooLargeForProduction => "PRODUCTION: max_file_size too high for production"
  | symbolEntriesTooManyForProduction => "PRODUCTION: max_symbol_entries too high for production"

end Problem

def productionName : String := "production"

def absoluteMaxFileSize : Nat := 1000000000
def absoluteMaxTokenCount : Nat := 100000000
def maxFloorLevel : Nat := 2
def productionMaxFileSize : Nat := 50000000
def productionMaxSymbolEntries : Nat := 1000000

def generalProblem? (limits : Limits) : Option Problem :=
  if absoluteMaxFileSize < limits.files.maxFileSize then some .fileSizeTooLarge
  else if limits.files.maxFileSize < limits.files.largeFileThreshold then
    some .thresholdAboveFileSize
  else if absoluteMaxTokenCount < limits.lexical.maxTokenCount then some .tokenCountTooLarge
  else if limits.lexical.maxIdentifierLength = 0 then some .identifierLengthZero
  else if maxFloorLevel < limits.notices.floorLevel then some .floorLevelTooHigh
  else none

def productionProblem? (limits : Limits) : Option Problem :=
  if productionMaxFileSize < limits.files.maxFileSize then some .fileSizeTooLargeForProduction
  else if productionMaxSymbolEntries < limits.symbols.maxSymbolEntries then
    some .symbolEntriesTooManyForProduction
  else none

def problem? (profile : String) (limits : Limits) : Option Problem :=
  (generalProblem? limits).or
    (if profile = productionName then productionProblem? limits else none)

end LexReport.Profile
