import LexReport.Symbol.Table
import LexReport.Text.Bytes

/-! The text report: the source as it is, a line for each token, and a line for each symbol. -/

set_option autoImplicit false

namespace LexReport.Report

open Text

def lexemeWidth : Nat := 15
def classWidth : Nat := 20

def tokenLine (token : Token) : String :=
  leftJustified lexemeWidth token.lexeme ++ " -> " ++ token.category.name

def tableRow (name label : String) : String :=
  leftJustified lexemeWidth name ++ " " ++ leftJustified classWidth label

def rule (length : Nat) (c : Char) : String := repeated length c

def unlines (lines : List String) : String :=
  lines.foldl (fun text line => text ++ line ++ "\n") ""

def tokenSection (tokens : List Token) : String :=
  unlines (tokens.map tokenLine)

def symbolSection (table : Symbol.Table) : String :=
  unlines (table.entries.map fun entry => tableRow entry.name entry.kind.label)

def sourceSection (source : String) : String :=
  unlines ["LEXICAL ANALYSIS REPORT", rule 50 '=', "", "INPUT CODE:", rule 20 '-', source, ""]

def render (source : String) (tokens : List Token) (table : Symbol.Table) : String :=
  sourceSection source ++
    unlines ["TOKENS FOUND:", rule 30 '='] ++ tokenSection tokens ++
    unlines ["", "Total tokens: " ++ toString tokens.length, "", "", rule 50 '=',
      "SYMBOL TABLE (TOKENS)", rule 50 '=', tableRow "ATTRIBUTES" "TOKEN/DATATYPE", rule 50 '-'] ++
    symbolSection table ++
    unlines [rule 50 '=', "Total unique symbols: " ++ toString table.size]

end LexReport.Report
