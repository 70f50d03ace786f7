import LexReport.Text.Printable

/-! A text spelled so that every character of it can be seen. -/

set_option autoImplicit false

namespace LexReport.Text

def spelledCode (c : Char) : String :=
  "\\u\x7b" ++ String.ofList (Nat.toDigits 16 c.toNat) ++ "\x7d"

def shortSpelling? (c : Char) : Option String :=
  if c = '\x00' then some "\\0"
  else if c = '\t' then some "\\t"
  else if c = '\r' then some "\\r"
  else if c = '\n' then some "\\n"
  else if c = '\'' then some "\\'"
  else if c = '"' then some "\\\""
  else if c = '\\' then some "\\\\"
  else none

/-- A combining mark is shown as itself only after another character. -/
def spelledChar (atStart : Bool) (c : Char) : String :=
  match shortSpelling? c with
  | some short => short
  | none =>
    if (atStart && isCombining c) || !isPrintable c then spelledCode c else c.toString

def escaped (text : String) : String :=
  match text.toList with
  | [] => ""
  | first :: rest => rest.foldl (fun done c => done ++ spelledChar false c) (spelledChar true first)

def quoted (text : String) : String :=
  let spelled (atStart : Bool) (c : Char) := if c = '\'' then "'" else spelledChar atStart c
  match text.toList with
  | [] => "\"\""
  | first :: rest =>
    rest.foldl (fun done c => done ++ spelled true c) ("\"" ++ spelled true first) ++ "\""

end LexReport.Text
