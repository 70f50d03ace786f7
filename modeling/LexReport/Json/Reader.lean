import LexReport.Json.Value

/-! JSON read. A document is one value; nothing but blanks may stand around it. -/

set_option autoImplicit false

namespace LexReport.Json

def isBlank (c : Char) : Bool :=
  c == ' ' || c == '\n' || c == '\t' || c == '\r'

def skipBlanks (rest : List Char) : List Char :=
  rest.dropWhile isBlank

def hexDigit? (c : Char) : Option Nat :=
  if '0' ≤ c ∧ c ≤ '9' then some (c.toNat - '0'.toNat)
  else if 'a' ≤ c ∧ c ≤ 'f' then some (c.toNat - 'a'.toNat + 10)
  else if 'A' ≤ c ∧ c ≤ 'F' then some (c.toNat - 'A'.toNat + 10)
  else none

def codeUnit? (a b c d : Char) : Option Nat := do
  let a ← hexDigit? a
  let b ← hexDigit? b
  let c ← hexDigit? c
  let d ← hexDigit? d
  return ((a * 16 + b) * 16 + c) * 16 + d

def shortEscape? (c : Char) : Option Char :=
  if c = '"' then some '"'
  else if c = '\\' then some '\\'
  else if c = '/' then some '/'
  else if c = 'b' then some '\x08'
  else if c = 'f' then some '\x0c'
  else if c = 'n' then some '\n'
  else if c = 'r' then some '\r'
  else if c = 't' then some '\t'
  else none

/-- A text being read: its characters so far, reversed; the first half of a surrogate pair, if it
was just read; and whether some half was left alone. -/
structure TextProgress where
  read : List Char
  half : Option Nat
  isBroken : Bool

namespace TextProgress

def empty : TextProgress := ⟨[], none, false⟩

/-- Another character, which leaves a half read before it alone. -/
def push (progress : TextProgress) (c : Char) : TextProgress :=
  ⟨c :: progress.read, none, progress.isBroken || progress.half.isSome⟩

def pushUnit (progress : TextProgress) (unit : Nat) : TextProgress :=
  if 0xd800 ≤ unit ∧ unit < 0xdc00 then
    ⟨progress.read, some unit, progress.isBroken || progress.half.isSome⟩
  else if 0xdc00 ≤ unit ∧ unit < 0xe000 then
    match progress.half with
    | some half =>
      let code := 0x10000 + (half - 0xd800) * 0x400 + (unit - 0xdc00)
      ⟨Char.ofNat code :: progress.read, none, progress.isBroken⟩
    | none => ⟨progress.read, none, true⟩
  else progress.push (Char.ofNat unit)

def finish (progress : TextProgress) : Option String :=
  if progress.isBroken || progress.half.isSome then none
  else some (String.ofList progress.read.reverse)

end TextProgress

def readText? (progress : TextProgress) : List Char → Option (Option String × List Char)
  | [] => none
  | '"' :: rest => some (progress.finish, rest)
  | '\\' :: 'u' :: a :: b :: c :: d :: rest =>
    match codeUnit? a b c d with
    | some unit => readText? (progress.pushUnit unit) rest
    | none => none
  | '\\' :: c :: rest =>
    match shortEscape? c with
    | some meant => readText? (progress.push meant) rest
    | none => none
  | c :: rest => if c = '\\' ∨ c.toNat < 0x20 then none else readText? (progress.push c) rest

def readDigits? (rest : List Char) : Option (List Char × List Char) :=
  let digits := rest.takeWhile Char.isDigit
  if digits.isEmpty then none else some (digits, rest.drop digits.length)

def natOfDigits (digits : List Char) : Nat :=
  digits.foldl (fun n c => n * 10 + (c.toNat - '0'.toNat)) 0

def readWhole? : List Char → Option (Nat × List Char)
  | '0' :: rest => some (0, rest)
  | rest => (readDigits? rest).map fun (digits, rest) => (natOfDigits digits, rest)

def readFraction? : List Char → Option (Bool × List Char)
  | '.' :: rest => (readDigits? rest).map fun (_, rest) => (true, rest)
  | rest => some (false, rest)

def skipSign : List Char → List Char
  | '+' :: rest | '-' :: rest => rest
  | rest => rest

def readExponent? : List Char → Option (Bool × List Char)
  | 'e' :: rest | 'E' :: rest => (readDigits? (skipSign rest)).map fun (_, rest) => (true, rest)
  | rest => some (false, rest)

/-- A number; only one without sign, fraction and exponent is natural. -/
def readNumber? (rest : List Char) : Option (Option Nat × List Char) := do
  let (isNegative, rest) := match rest with
    | '-' :: rest => (true, rest)
    | rest => (false, rest)
  let (whole, rest) ← readWhole? rest
  let (hasFraction, rest) ← readFraction? rest
  let (hasExponent, rest) ← readExponent? rest
  return (if isNegative || hasFraction || hasExponent then none else some whole, rest)

mutual

/-- Read a value with nothing before it. The fuel bounds the number of characters to read. -/
def readValue? (fuel : Nat) (rest : List Char) : Option (Value × List Char) :=
  match fuel with
  | 0 => none
  | fuel + 1 =>
    match rest with
    | 'n' :: 'u' :: 'l' :: 'l' :: rest => some (.null, rest)
    | 't' :: 'r' :: 'u' :: 'e' :: rest => some (.bool true, rest)
    | 'f' :: 'a' :: 'l' :: 's' :: 'e' :: rest => some (.bool false, rest)
    | '"' :: rest => (readText? .empty rest).map fun (s, rest) => (.text s, rest)
    | '[' :: rest =>
      match skipBlanks rest with
      | ']' :: rest => some (.array [], rest)
      | rest => readItems? fuel [] rest
    | '\x7b' :: rest =>
      match skipBlanks rest with
      | '\x7d' :: rest => some (.object [], rest)
      | rest => readFields? fuel [] rest
    | rest => (readNumber? rest).map fun (n, rest) => (.number n, rest)

/-- Read the items of an array that has some, on top of those before, which are reversed. -/
def readItems? (fuel : Nat) (done : List Value) (rest : List Char) :
    Option (Value × List Char) :=
  match fuel with
  | 0 => none
  | fuel + 1 => do
    let (item, rest) ← readValue? fuel rest
    match skipBlanks rest with
    | ',' :: rest => readItems? fuel (item :: done) (skipBlanks rest)
    | ']' :: rest => some (.array (item :: done).reverse, rest)
    | _ => none

def readFields? (fuel : Nat) (done : List (Option String × Value)) (rest : List Char) :
    Option (Value × List Char) :=
  match fuel with
  | 0 => none
  | fuel + 1 =>
    match rest with
    | '"' :: rest => do
      let (name, rest) ← readText? .empty rest
      match skipBlanks rest with
      | ':' :: rest => do
        let (value, rest) ← readValue? fuel (skipBlanks rest)
        match skipBlanks rest with
        | ',' :: rest => readFields? fuel ((name, value) :: done) (skipBlanks rest)
        | '\x7d' :: rest => some (.object ((name, value) :: done).reverse, rest)
        | _ => none
      | _ => none
    | _ => none

end

def read? (document : String) : Option Value := do
  let text := document.toList
  let (value, rest) ← readValue? (2 * text.length + 1) (skipBlanks text)
  if (skipBlanks rest).isEmpty then return value else none

end LexReport.Json
