import LexReport.Analysis.Run
import LexReport.Command.Arguments

/-! What the command says of an analysis to one who watches. -/

set_option autoImplicit false

namespace LexReport.Command

open Report (unlines rule)

def opening (arguments : Arguments) : String :=
  unlines
    ["LEXICAL ANALYZER WITH SYMBOL TABLE", rule 60 '=',
      "This program reads C code from '" ++ arguments.input ++ "' file",
      "and generates a symbol table in '" ++ arguments.output ++ "'", rule 60 '-',
      "LEXICAL ANALYZER - TXT FILE INPUT", rule 50 '=']

def resultText (arguments : Arguments) (result : Analysis.Result) : String :=
  let findings := result.findings
  unlines
      ["Reading code from: " ++ arguments.input, "Code content:", rule 20 '-', result.source.text,
        "", "Analyzing...", "", "TOKENS GENERATED:", rule 30 '='] ++
    Report.tokenSection findings.tokens ++
    (if result.isReportWritten then unlines ["", "Symbol table saved to: " ++ arguments.output]
      else "") ++
    unlines
      ["Total tokens found: " ++ toString findings.tokens.length,
        "Total unique identifiers: " ++ toString findings.gathered.identifiers.size]

def errorText (limits : Limits) (arguments : Arguments) (error : Analysis.Error) : String :=
  match error.inputFailure? with
  | some .missing => "Error: File '" ++ arguments.input ++ "' not found!\n"
  | some .unreadable =>
    "Error: File '" ++ arguments.input ++ "' could not be read: " ++ error.message limits ++ "\n"
  | none => "Error: " ++ error.message limits ++ "\n"

def closingText (arguments : Arguments) (isSuccess : Bool) : String :=
  if isSuccess then
    unlines
      ["", "Analysis completed successfully!",
        "Check '" ++ arguments.output ++ "' for detailed symbol table"]
  else unlines ["Analysis failed or no code found!"]

def narration (limits : Limits) (arguments : Arguments)
    (answer : Except Analysis.Error Analysis.Outcome) : String :=
  let told := match answer with
    | .ok (.completed result _) => resultText arguments result
    | .ok .noCode => ""
    | .error error => errorText limits arguments error
  let isSuccess := match answer with
    | .ok outcome => outcome.isSuccess
    | .error _ => false
  opening arguments ++ told ++ closingText arguments isSuccess

end LexReport.Command
