import LexReport.Json.Value
import LexReport.Text.Bytes

/-! JSON written out, on one line or indented by two spaces a level. Only quotes, backslashes and
control characters are escaped in texts. -/

set_option autoImplicit false

namespace LexReport.Json

def controlEscape (c : Char) : String :=
  let digits := Nat.toDigits 16 c.toNat
  "\\u" ++ String.ofList (List.replicate (4 - digits.length) '0' ++ digits)

def escapedChar (c : Char) : String :=
  if c = '"' then "\\\""
  else if c = '\\' then "\\\\"
  else if c = '\x08' then "\\b"
  else if c = '\t' then "\\t"
  else if c = '\n' then "\\n"
  else if c = '\x0c' then "\\f"
  else if c = '\r' then "\\r"
  else if c.toNat < 0x20 then controlEscape c
  else c.toString

def writeString (out s : String) : String :=
  s.toList.foldl (fun out c => out ++ escapedChar c) (out ++ "\"") ++ "\""

/-- A text that is not well formed is written as half of a surrogate pair. -/
def writeText (out : String) : Option String → String
  | some s => writeString out s
  | none => out ++ "\"\\ud800\""

/-- A number that is not natural is written as minus one. -/
def writeNumber (out : String) : Option Nat → String
  | some n => out ++ toString n
  | none => out ++ "-1"

/-- How the parts of a document are set apart. `level` is the depth of what is inside. -/
structure Style where
  /-- What stands before each item or field, and before a closing bracket one level up. -/
  lineStart : Nat → String
  afterColon : String

def Style.compact : Style := ⟨fun _ => "", ""⟩

def Style.pretty : Style := ⟨fun level => "\n" ++ Text.repeated (2 * level) ' ', " "⟩

mutual

def write (style : Style) (level : Nat) (out : String) : Value → String
  | .null => out ++ "null"
  | .bool value => out ++ (if value then "true" else "false")
  | .number value => writeNumber out value
  | .text value => writeText out value
  | .array [] => out ++ "[]"
  | .array (first :: rest) =>
    let opened := write style (level + 1) (out ++ "[" ++ style.lineStart (level + 1)) first
    writeItems style (level + 1) opened rest ++ style.lineStart level ++ "]"
  | .object [] => out ++ "\x7b\x7d"
  | .object ((name, value) :: rest) =>
    let opened := writeText (out ++ "\x7b" ++ style.lineStart (level + 1)) name
    let opened := write style (level + 1) (opened ++ ":" ++ style.afterColon) value
    writeFields style (level + 1) opened rest ++ style.lineStart level ++ "\x7d"

def writeItems (style : Style) (level : Nat) (out : String) : List Value → String
  | [] => out
  | item :: rest =>
    writeItems style level (write style level (out ++ "," ++ style.lineStart level) item) rest

def writeFields (style : Style) (level : Nat) (out : String) :
    List (Option String × Value) → String
  | [] => out
  | (name, value) :: rest =>
    let named := writeText (out ++ "," ++ style.lineStart level) name
    writeFields style level (write style level (named ++ ":" ++ style.afterColon) value) rest

end

def Value.compact (value : Value) : String := write .compact 0 "" value

def Value.pretty (value : Value) : String := write .pretty 0 "" value

end LexReport.Json
