import LexReport.Toml.Numbers
import LexReport.Toml.Texts

/-! TOML documents read, line by line. -/

set_option autoImplicit false

namespace LexReport.Toml

/-- Keys with this many parts, and arrays and tables nested this deep, are refused. -/
def depthLimit : Nat := 80

def isBareKeyChar (c : Char) : Bool :=
  c.isAlphanum || c == '_' || c == '-'

def simpleKey? (rest : List Char) : Option (String × List Char) :=
  match rest with
  | '"' :: rest => basicText? (rest.length + 1) [] rest
  | '\'' :: rest => literalText? rest
  | rest =>
    let bare := rest.takeWhile isBareKeyChar
    if bare.isEmpty then none else some (String.ofList bare, rest.drop bare.length)

def keyParts? (fuel : Nat) (rest : List Char) : Option (List String × List Char) :=
  match fuel with
  | 0 => none
  | fuel + 1 => do
    let (first, rest) ← simpleKey? (skipSpace rest)
    match skipSpace rest with
    | '.' :: rest => do
      let (others, rest) ← keyParts? fuel rest
      return (first :: others, rest)
    | rest => return ([first], rest)

def key? (rest : List Char) : Option ((List String × String) × List Char) := do
  let (parts, rest) ← keyParts? (depthLimit - 1) rest
  let last ← parts.getLast?
  return ((parts.dropLast, last), rest)

def skipComment (rest : List Char) : List Char :=
  match rest with
  | '#' :: rest => rest.dropWhile isPlain
  | rest => rest

def lineEnd? (rest : List Char) : Option (List Char) :=
  match skipComment (skipSpace rest) with
  | [] => some []
  | rest => newline? rest

def skipLines (fuel : Nat) (rest : List Char) : List Char :=
  match fuel with
  | 0 => rest
  | fuel + 1 =>
    let rest := skipComment (skipSpace rest)
    match newline? rest with
    | some rest => skipLines fuel rest
    | none => rest

mutual

/-- Read a value. `depth` counts the arrays and tables around it. -/
def value? (fuel depth : Nat) (rest : List Char) : Option (Item × List Char) :=
  match fuel with
  | 0 => none
  | fuel + 1 =>
    match rest with
    | '"' :: _ | '\'' :: _ => (text? rest).map fun (s, rest) => (.string s, rest)
    | 't' :: 'r' :: 'u' :: 'e' :: rest => some (.boolean true, rest)
    | 'f' :: 'a' :: 'l' :: 's' :: 'e' :: rest => some (.boolean false, rest)
    | '[' :: rest => if depth + 1 < depthLimit then items? fuel (depth + 1) [] rest else none
    | '\x7b' :: rest =>
      if depth + 1 < depthLimit then
        match skipSpace rest with
        | '\x7d' :: rest => some (.table .inline [], rest)
        | rest => pairs? fuel (depth + 1) [] rest
      else none
    | rest => number? rest

def items? (fuel depth : Nat) (done : List Item) (rest : List Char) : Option (Item × List Char) :=
  match fuel with
  | 0 => none
  | fuel + 1 =>
    match skipLines rest.length rest with
    | ']' :: rest => some (.array done.reverse, rest)
    | rest => do
      let (item, rest) ← value? fuel depth rest
      match skipLines rest.length rest with
      | ',' :: rest => items? fuel depth (item :: done) rest
      | ']' :: rest => some (.array (item :: done).reverse, rest)
      | _ => none

def pairs? (fuel depth : Nat) (entries : Entries) (rest : List Char) :
    Option (Item × List Char) :=
  match fuel with
  | 0 => none
  | fuel + 1 => do
    let ((path, key), rest) ← key? rest
    let rest ← expect? '=' rest
    let (item, rest) ← value? fuel depth (skipSpace rest)
    let entries ← entries.addAt .headed path key item
    match skipSpace rest with
    | ',' :: rest => pairs? fuel depth entries rest
    | '\x7d' :: rest => some (.table .inline entries, rest)
    | _ => none

end

/-- A document being read: all that was read, and the header above the next line. -/
structure Progress where
  entries : Entries
  header : List String

def header? (progress : Progress) (rest : List Char) : Option (Progress × List Char) := do
  let (isDoubled, rest) := match rest with
    | '[' :: rest => (true, rest)
    | rest => (false, rest)
  let ((path, key), rest) ← key? rest
  let rest ← expect? ']' rest
  let rest ← if isDoubled then expect? ']' rest else some rest
  let rest ← lineEnd? rest
  let begun := if isDoubled then Entries.beginElement key else Entries.beginTable key
  let entries ← progress.entries.changeAt false begun .headed path
  return (⟨entries, path ++ [key]⟩, rest)

def pair? (progress : Progress) (rest : List Char) : Option (Progress × List Char) := do
  let ((path, key), rest) ← key? rest
  let rest ← expect? '=' rest
  let (item, rest) ← value? (2 * rest.length + 1) 0 (skipSpace rest)
  let rest ← lineEnd? rest
  let add (form : TableForm) (entries : Entries) := entries.addAt form path key item
  let entries ← progress.entries.changeAt false add .headed progress.header
  return (⟨entries, progress.header⟩, rest)

def lines? (fuel : Nat) (progress : Progress) (rest : List Char) : Option Entries :=
  match fuel with
  | 0 => none
  | fuel + 1 =>
    match skipSpace rest with
    | [] => some progress.entries
    | '[' :: rest =>
      match header? progress rest with
      | some (progress, rest) => lines? fuel progress rest
      | none => none
    | c :: rest =>
      if c = '#' ∨ c = '\n' ∨ c = '\r' then
        match lineEnd? (c :: rest) with
        | some rest => lines? fuel progress rest
        | none => none
      else
        match pair? progress (c :: rest) with
        | some (progress, rest) => lines? fuel progress rest
        | none => none

/-- Read a document; a byte order mark may stand at its start. -/
def read? (document : String) : Option Entries :=
  let text := match document.toList with
    | '\ufeff' :: rest => rest
    | rest => rest
  lines? (text.length + 1) ⟨[], []⟩ text

end LexReport.Toml
