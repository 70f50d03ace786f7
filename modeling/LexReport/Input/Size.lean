import LexReport.Decimal.Fixed
import LexReport.Limits

/-! Sizes of files for a reader. -/

set_option autoImplicit false

namespace LexReport.Input

def sizeUnits : List String := ["KB", "MB", "GB"]

def sizeInUnits (size unit : Nat) (name : String) : List String → String
  | [] => Decimal.fixed 2 size unit ++ " " ++ name
  | larger :: rest =>
    if 1024 * unit ≤ size then sizeInUnits size (1024 * unit) larger rest
    else Decimal.fixed 2 size unit ++ " " ++ name

/-- Bytes are counted exactly; larger units have two places, taken of the size to 53 binary
digits. -/
def sizeText (size : Nat) : String :=
  let rounded := Decimal.toBinaryDigits 53 size
  match sizeUnits with
  | smallest :: rest =>
    if 1024 ≤ rounded then sizeInUnits rounded 1024 smallest rest else toString size ++ " B"
  | [] => toString size ++ " B"

def isLarge (limits : FileLimits) (size : Nat) : Bool :=
  decide (limits.largeFileThreshold < size)

end LexReport.Input
