/-! Quotients written with a fixed number of places, and numbers rounded to a number of binary
digits. Both round to the nearest, and a half to the even neighbour. -/

set_option autoImplicit false

namespace LexReport.Decimal

def roundDiv (num den : Nat) : Nat :=
  let whole := num / den
  let rest := num % den
  if 2 * rest < den then whole
  else if den < 2 * rest then whole + 1
  else whole + whole % 2

def toBinaryDigits (digits n : Nat) : Nat :=
  let unit := Nat.pow 2 (n.log2 + 1 - digits)
  roundDiv n unit * unit

def padLeft (width : Nat) (text : String) : String :=
  String.ofList (List.replicate (width - text.length) '0') ++ text

/-- The quotient with `places` digits after the point. -/
def fixed (places num den : Nat) : String :=
  let unit := Nat.pow 10 places
  let scaled := roundDiv (num * unit) den
  toString (scaled / unit) ++ "." ++ padLeft places (toString (scaled % unit))

end LexReport.Decimal
