import LexReport.Json.Reader

/-! Texts in TOML: basic ones with escapes, literal ones without, each on one line or on many. -/

set_option autoImplicit false

namespace LexReport.Toml

def isSpace (c : Char) : Bool := c == ' ' || c == '\t'

def skipSpace (rest : List Char) : List Char := rest.dropWhile isSpace

/-- A line break is a line feed, or a carriage return before one. -/
def newline? : List Char → Option (List Char)
  | '\n' :: rest => some rest
  | '\r' :: '\n' :: rest => some rest
  | _ => none

def isPlain (c : Char) : Bool :=
  c == '\t' || (0x20 ≤ c.toNat && c.toNat != 0x7f)

def hexNumber? (digits : List Char) : Option Nat :=
  digits.foldlM (fun n c => (Json.hexDigit? c).map (n * 16 + ·)) 0

def scalar? (code : Nat) : Option Char :=
  if code.isValidChar then some (Char.ofNat code) else none

def shortEscape? (c : Char) : Option Char :=
  if c = 'b' then some '\x08'
  else if c = 't' then some '\t'
  else if c = 'n' then some '\n'
  else if c = 'f' then some '\x0c'
  else if c = 'r' then some '\r'
  else if c = '"' then some '"'
  else if c = '\\' then some '\\'
  else none

def escape? : List Char → Option (Char × List Char)
  | [] => none
  | c :: rest =>
    if c = 'u' ∨ c = 'U' then
      let count := if c = 'u' then 4 else 8
      let digits := rest.take count
      if digits.length = count then do
        let code ← hexNumber? digits
        let meant ← scalar? code
        return (meant, rest.drop count)
      else none
    else (shortEscape? c).map (·, rest)

def basicText? (fuel : Nat) (read : List Char) (rest : List Char) : Option (String × List Char) :=
  match fuel, rest with
  | _, [] | 0, _ => none
  | fuel + 1, c :: rest =>
    if c = '"' then some (String.ofList read.reverse, rest)
    else if c = '\\' then
      match escape? rest with
      | some (meant, rest) => basicText? fuel (meant :: read) rest
      | none => none
    else if isPlain c then basicText? fuel (c :: read) rest
    else none

def literalText? (rest : List Char) : Option (String × List Char) :=
  let inner := rest.takeWhile fun c => c != '\'' && isPlain c
  match rest.drop inner.length with
  | '\'' :: rest => some (String.ofList inner, rest)
  | _ => none

/-- After a backslash at the end of a line: the blank lines and the spaces that follow. -/
def skipLineBreaks : List Char → List Char
  | '\n' :: rest => skipLineBreaks rest
  | '\r' :: '\n' :: rest => skipLineBreaks rest
  | c :: rest => if isSpace c then skipLineBreaks rest else c :: rest
  | [] => []

/-- Read a text on many lines, after its first quotes. Up to two quotes may stand in it anywhere,
before the three that end it too. -/
def longText? (quote : Char) (fuel : Nat) (read : List Char) (rest : List Char) :
    Option (String × List Char) :=
  match fuel, rest with
  | _, [] | 0, _ => none
  | fuel + 1, c :: more =>
    if c = quote then
      let count := ((c :: more).takeWhile (· == quote)).length
      let rest := (c :: more).drop count
      if count < 3 then longText? quote fuel (List.replicate count quote ++ read) rest
      else if count ≤ 5 then
        some (String.ofList (List.replicate (count - 3) quote ++ read).reverse, rest)
      else none
    else
      match newline? (c :: more) with
      | some rest => longText? quote fuel ('\n' :: read) rest
      | none =>
        if c = '\\' ∧ quote = '"' then
          match newline? (skipSpace more) with
          | some rest => longText? quote fuel read (skipLineBreaks rest)
          | none =>
            match escape? more with
            | some (meant, rest) => longText? quote fuel (meant :: read) rest
            | none => none
        else if isPlain c then longText? quote fuel (c :: read) more
        else none

/-- A line break right after the first quotes does not belong to the text. -/
def skipNewline (rest : List Char) : List Char := (newline? rest).getD rest

def text? (rest : List Char) : Option (String × List Char) :=
  match rest with
  | '"' :: '"' :: '"' :: rest => longText? '"' (rest.length + 1) [] (skipNewline rest)
  | '\'' :: '\'' :: '\'' :: rest => longText? '\'' (rest.length + 1) [] (skipNewline rest)
  | '"' :: rest => basicText? (rest.length + 1) [] rest
  | '\'' :: rest => literalText? rest
  | _ => none

end LexReport.Toml
