/-! Why nothing comes of what is asked for a path: a failure, as the system reports it. -/

set_option autoImplicit false

namespace LexReport.Files

structure Failure where
  /-- The number that the system has for it; none if the system was not even asked. -/
  number : Option Nat
  kind : String
  text : String
  deriving DecidableEq, Repr, Inhabited

namespace Failure

def notFound : Failure := ⟨some 2, "NotFound", "No such file or directory"⟩

def denied : Failure := ⟨some 13, "PermissionDenied", "Permission denied"⟩

def notADirectory : Failure := ⟨some 20, "NotADirectory", "Not a directory"⟩

def isADirectory : Failure := ⟨some 21, "IsADirectory", "Is a directory"⟩

def nameTooLong : Failure := ⟨some 36, "InvalidFilename", "File name too long"⟩

def tooManyLinks : Failure := ⟨some 40, "FilesystemLoop", "Too many levels of symbolic links"⟩

def zeroInPath : Failure := ⟨none, "InvalidInput", "file name contained an unexpected NUL byte"⟩

def notText : Failure := ⟨none, "InvalidData", "stream did not contain valid UTF-8"⟩

def isDenial (failure : Failure) : Bool := failure.kind == "PermissionDenied"

def isOfContent (failure : Failure) : Bool := failure.kind == "InvalidData"

def message (failure : Failure) : String :=
  match failure.number with
  | some number => failure.text ++ " (os error " ++ toString number ++ ")"
  | none => failure.text

/-- The failure with its parts, as it is shown to one who looks for its cause. -/
def detail (failure : Failure) : String :=
  match failure.number with
  | some number =>
    "Os \x7b code: " ++ toString number ++ ", kind: " ++ failure.kind ++ ", message: \"" ++
      failure.text ++ "\" \x7d"
  | none =>
    "Error \x7b kind: " ++ failure.kind ++ ", message: \"" ++ failure.text ++ "\" \x7d"

end Failure

end LexReport.Files
