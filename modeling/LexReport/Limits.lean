/-! Bounds that are fixed when the program is built. Lengths and sizes count UTF-8 bytes. -/

set_option autoImplicit false

namespace LexReport

structure FileLimits where
  maxFileSize : Nat
  /-- Above this size a file is called large. -/
  largeFileThreshold : Nat
  maxLineCount : Nat
  deriving DecidableEq, Repr

structure LexicalLimits where
  maxTokenCount : Nat
  maxIdentifierLength : Nat
  maxStringSize : Nat
  maxCommentLength : Nat
  /-- Gaps beyond this number are counted and not listed. -/
  maxReportedGaps : Nat
  deriving DecidableEq, Repr

structure SymbolLimits where
  maxSymbolEntries : Nat
  maxPlainIdentifiers : Nat
  deriving DecidableEq, Repr

structure NoticeLimits where
  /-- The most events a store of events holds. -/
  maxCollected : Nat
  maxMessageLength : Nat
  maxPerFile : Nat
  /-- The least verbose level that may be chosen: 0 errors, 1 warnings, 2 information. -/
  floorLevel : Nat
  deriving DecidableEq, Repr

structure Limits where
  files : FileLimits
  lexical : LexicalLimits
  symbols : SymbolLimits
  notices : NoticeLimits
  deriving DecidableEq, Repr

def Limits.development : Limits where
  files := ⟨10485760, 1048576, 100000⟩
  lexical := ⟨1000000, 255, 65536, 65536, 1000⟩
  symbols := ⟨100000, 100000⟩
  notices := ⟨1000, 2048, 500, 2⟩

end LexReport
