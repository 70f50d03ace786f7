/-! Line endings made uniform: a carriage return, with the line feed after it if there is one,
becomes one line feed. Done in two steps, pairs first, then the returns that are left. And the lines
of a text, cut behind their ends. -/

set_option autoImplicit false

namespace LexReport.Text

/-- Replace each return that a line feed follows, on top of the reversed text already read. -/
def joinReturnPairs (read : List Char) : List Char → List Char
  | [] => read.reverse
  | '\r' :: '\n' :: rest => joinReturnPairs ('\n' :: read) rest
  | c :: rest => joinReturnPairs (c :: read) rest

def replaceReturns (text : List Char) : List Char :=
  text.map fun c => if c = '\r' then '\n' else c

/-- The uniform text and the number of returns that were rewritten. -/
def uniformLineEndings (text : String) : String × Nat :=
  let count := text.toList.count '\r'
  if count = 0 then (text, 0)
  else (String.ofList (replaceReturns (joinReturnPairs [] text.toList)), count)

/-- Cut a text behind each line feed, and put the lines behind those already cut. The line under way
is reversed. -/
def linesOnto (lines : Array (List Char)) (line : List Char) : List Char → Array (List Char)
  | [] => if line.isEmpty then lines else lines.push line.reverse
  | c :: rest =>
    if c = '\n' then linesOnto (lines.push (c :: line).reverse) [] rest
    else linesOnto lines (c :: line) rest

def linesOf (text : String) : Array (List Char) := linesOnto #[] [] text.toList

def lineTotal (text : String) : Nat := (linesOf text).size

end LexReport.Text
