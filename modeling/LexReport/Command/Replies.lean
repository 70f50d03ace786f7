import LexReport.Command.Arguments
import LexReport.Text.Toned

/-! What the command replies to arguments that it refuses, and to a question about itself. -/

set_option autoImplicit false

namespace LexReport.Command

open Text (Piece Toned)

/-- Names between angle brackets are those of given paths. -/
def PathUsage.words : PathUsage → List String
  | given count =>
    (pathNames.take count).map (fun name => "<" ++ name ++ ">") ++
      (pathNames.drop count).map (fun name => "[" ++ name ++ "]")
  | any => ["<" ++ "|".intercalate pathNames ++ ">"]

def Usage.toned (usage : Usage) : Toned :=
  [.heading "Usage:", .plain " ", .literal "clex"] ++
    usage.flags.flatMap (fun flag => [.plain " ", .literal flag.spelling]) ++
    usage.paths.words.map (fun word => .plain (" " ++ word))

def Tip.toned : Tip → Toned
  | asValue argument =>
    [.plain "to pass '", .invalid argument, .plain "' as a value, use '",
      .valid ("-- " ++ argument), .plain "'"]
  | similar flag =>
    [.plain "a similar argument exists: '", .valid flag.spelling, .plain "'"]

namespace Refusal

def reason : Refusal → Toned
  | unexpected argument _ _ =>
    [.plain "unexpected argument '", .invalid argument, .plain "' found"]
  | unexpectedValue value flag _ =>
    [.plain "unexpected value '", .invalid value, .plain "' for '", .literal flag.spelling,
      .plain "' found; no more were expected"]
  | emptyPath name =>
    [.plain "a value is required for '", .invalid ("[" ++ name ++ "]"),
      .plain "' but none was supplied"]

def tip? : Refusal → Option Tip
  | unexpected _ tip _ => tip
  | unexpectedValue .. | emptyPath _ => none

def usage? : Refusal → Option Usage
  | unexpected _ _ usage | unexpectedValue _ _ usage => some usage
  | emptyPath _ => none

def closing : Toned :=
  [.plain "For more information, try '", .literal Flag.help.spelling, .plain "'.\n"]

def toned (refusal : Refusal) : Toned :=
  let tip := refusal.tip?.toList.map fun tip =>
    [.plain "  ", .valid "tip:", .plain " "] ++ tip.toned
  let usage := refusal.usage?.toList.map Usage.toned
  [.failure "error:", .plain " "] ++
    [Piece.plain "\n\n"].intercalate ([refusal.reason] ++ tip ++ usage ++ [closing])

end Refusal

def helpText : Toned :=
  [.plain "Command line front end for the c_lexer analyzer\n\n"] ++ Usage.plain.toned ++
    [.plain "\n\n", .heading "Arguments:",
      .plain "\n  [INPUT]   C source file to analyze [default: input_code.txt]",
      .plain "\n  [OUTPUT]  Report file, overwritten on every run ",
      .plain "[default: symbol_table_output.txt]", .plain "\n\n", .heading "Options:",
      .plain "\n  ", .literal "-h", .plain ", ", .literal "--help", .plain "     Print help",
      .plain "\n  ", .literal "-V", .plain ", ", .literal "--version", .plain "  Print version\n"]

def versionText : Toned := [.plain "c_lexer_cli 0.1.0\n"]

def Flag.answer : Flag → Toned
  | help => helpText
  | version => versionText

end LexReport.Command
