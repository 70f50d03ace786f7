import LexReport.Json.Reader
import LexReport.Toml.Item

/-! Numbers, dates and times in TOML. -/

set_option autoImplicit false

namespace LexReport.Toml

def digitRun? (isDigit : Char → Bool) (rest : List Char) : Option (List Char × List Char) :=
  let run := rest.takeWhile fun c => isDigit c || c == '_'
  let isWell := !run.isEmpty && run.head? != some '_' && run.getLast? != some '_' &&
    !(run.zip (run.drop 1)).contains ('_', '_')
  if isWell then some (run.filter (· != '_'), rest.drop run.length) else none

def wholeDigits? : List Char → Option (List Char × List Char)
  | '0' :: rest => some (['0'], rest)
  | rest => digitRun? Char.isDigit rest

def sign (rest : List Char) : Bool × List Char :=
  match rest with
  | '-' :: rest => (true, rest)
  | '+' :: rest => (false, rest)
  | rest => (false, rest)

def fraction? : List Char → Option (Option (List Char) × List Char)
  | '.' :: rest => (digitRun? Char.isDigit rest).map fun (digits, rest) => (some digits, rest)
  | rest => some (none, rest)

def exponent? : List Char → Option (Option Int × List Char)
  | c :: rest =>
    if c = 'e' ∨ c = 'E' then
      let (isNegative, rest) := sign rest
      (digitRun? Char.isDigit rest).map fun (digits, rest) =>
        let n : Int := Json.natOfDigits digits
        (some (if isNegative then -n else n), rest)
    else some (none, c :: rest)
  | [] => some (none, [])

/-- The least number that double precision rounds to infinity. -/
def overflowBound : Nat := Nat.pow 2 1024 - Nat.pow 2 970

def overflows (digits : Nat) (scale : Int) : Bool :=
  let places : Int := (toString digits).length
  if digits = 0 ∨ places + scale < 300 then false
  else if 310 < places + scale then true
  else if 0 ≤ scale then decide (overflowBound ≤ digits * Nat.pow 10 scale.toNat)
  else decide (overflowBound * Nat.pow 10 (-scale).toNat ≤ digits)

/-- Whole numbers have 63 bits and a sign. -/
def wholeBound : Nat := Nat.pow 2 63

def decimal? (rest : List Char) : Option (Item × List Char) := do
  let (isNegative, rest) := sign rest
  let (whole, rest) ← wholeDigits? rest
  let (fraction, rest) ← fraction? rest
  let (exponent, rest) ← exponent? rest
  if fraction.isSome || exponent.isSome then
    let part := fraction.getD []
    if !isNegative && overflows (Json.natOfDigits (whole ++ part)) (exponent.getD 0 - part.length)
    then none
    else return (.float, rest)
  else
    let n := Json.natOfDigits whole
    if isNegative then
      if n ≤ wholeBound then return (.integer (-n), rest) else none
    else if n < wholeBound then return (.integer n, rest)
    else none

def based? (base : Nat) (rest : List Char) : Option (Item × List Char) := do
  let isDigit (c : Char) : Bool := (Json.hexDigit? c).any (· < base)
  let (digits, rest) ← digitRun? isDigit rest
  let n := digits.foldl (fun n c => n * base + (Json.hexDigit? c).getD 0) 0
  if n < wholeBound then return (.integer n, rest) else none

def special? (rest : List Char) : Option (Item × List Char) :=
  match (sign rest).2 with
  | 'i' :: 'n' :: 'f' :: rest | 'n' :: 'a' :: 'n' :: rest => some (.float, rest)
  | _ => none

def fixedDigits? (count low high : Nat) (rest : List Char) : Option (Nat × List Char) :=
  let digits := rest.take count
  let n := Json.natOfDigits digits
  if digits.length = count && digits.all Char.isDigit && low ≤ n && n ≤ high then
    some (n, rest.drop count)
  else none

def expect? (c : Char) : List Char → Option (List Char)
  | d :: rest => if c = d then some rest else none
  | [] => none

def isLeapYear (year : Nat) : Bool :=
  year % 4 == 0 && (year % 100 != 0 || year % 400 == 0)

def daysInMonth (year month : Nat) : Nat :=
  if month = 2 then (if isLeapYear year then 29 else 28)
  else if [4, 6, 9, 11].contains month then 30
  else 31

def date? (rest : List Char) : Option (List Char) := do
  let (year, rest) ← fixedDigits? 4 0 9999 rest
  let rest ← expect? '-' rest
  let (month, rest) ← fixedDigits? 2 1 12 rest
  let rest ← expect? '-' rest
  let (_, rest) ← fixedDigits? 2 1 (daysInMonth year month) rest
  return rest

def secondFraction? : List Char → Option (List Char)
  | '.' :: rest =>
    let digits := rest.takeWhile Char.isDigit
    if digits.isEmpty then none else some (rest.drop digits.length)
  | rest => some rest

def time? (rest : List Char) : Option (List Char) := do
  let (_, rest) ← fixedDigits? 2 0 23 rest
  let rest ← expect? ':' rest
  let (_, rest) ← fixedDigits? 2 0 59 rest
  let rest ← expect? ':' rest
  let (_, rest) ← fixedDigits? 2 0 60 rest
  secondFraction? rest

def offset? : List Char → Option (List Char)
  | c :: rest =>
    if c = 'Z' ∨ c = 'z' then some rest
    else if c = '+' ∨ c = '-' then do
      let (_, rest) ← fixedDigits? 2 0 23 rest
      let rest ← expect? ':' rest
      let (_, rest) ← fixedDigits? 2 0 59 rest
      return rest
    else some (c :: rest)
  | [] => some []

/-- A date, with a time of day after it if one is given, or a time of day. -/
def dateTime? (rest : List Char) : Option (List Char) :=
  match date? rest with
  | some (c :: more) =>
    if c = 'T' ∨ c = 't' ∨ c = ' ' then
      match time? more with
      | some rest => offset? rest
      | none => some (c :: more)
    else some (c :: more)
  | some [] => some []
  | none => time? rest

def number? (rest : List Char) : Option (Item × List Char) :=
  match dateTime? rest with
  | some rest => some (.dateTime, rest)
  | none =>
    match rest with
    | '0' :: 'x' :: rest => based? 16 rest
    | '0' :: 'o' :: rest => based? 8 rest
    | '0' :: 'b' :: rest => based? 2 rest
    | rest => (special? rest).or (decimal? rest)

end LexReport.Toml
