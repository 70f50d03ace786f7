import LexReport.Notice.Code
import LexReport.Notice.Level
import LexReport.Source.Span

/-! Events: what the program says while it works. -/

set_option autoImplicit false

namespace LexReport.Notice

/-- Named details of an event, in the order of their names and each name once. -/
abbrev Context := List (String × String)

/-- A detail replaces an earlier one of the same name. -/
def Context.put (context : Context) (name value : String) : Context :=
  match context with
  | [] => [(name, value)]
  | (other, kept) :: rest =>
    if name = other then (name, value) :: rest
    else if name < other then (name, value) :: (other, kept) :: rest
    else (other, kept) :: Context.put rest name value

structure Event where
  level : Level
  code : Code
  message : String
  span : Option Source.Span
  context : Context
  deriving DecidableEq, Repr, Inhabited

namespace Event

def error (code : Code) (message : String) : Event := ⟨.error, code, message, none, []⟩

def warning (code : Code) (message : String) : Event := ⟨.warning, code, message, none, []⟩

def success (code : Code) (message : String) : Event := ⟨.info, code, message, none, []⟩

def info (message : String) : Event := success .plainInfo message

def debug (message : String) : Event := ⟨.debug, .plainDebug, message, none, []⟩

def located (event : Event) (span : Source.Span) : Event := { event with span := some span }

def detail (event : Event) (name value : String) : Event :=
  { event with context := event.context.put name value }

def details (event : Event) (pairs : List (String × String)) : Event :=
  pairs.foldl (fun event pair => event.detail pair.1 pair.2) event

/-- Whether an event is about something wrong, and so is kept for the file it concerns. -/
def isProblem (event : Event) : Bool :=
  event.level == .error || event.level == .warning

def isCritical (event : Event) : Bool :=
  event.level == .error && event.code.requiresHalt

def line (event : Event) : String :=
  let place := match event.span with
    | some span => " at " ++ span.first.text
    | none => ""
  "[" ++ event.level.label ++ "] " ++ event.code.text ++ " - " ++ event.message ++ place

def description (event : Event) : String :=
  let onError :=
    if event.level = .error then
      "\n  Recoverable: " ++ toString event.code.isRecoverable ++
        "\n  Requires halt: " ++ toString event.code.requiresHalt
    else ""
  let onRecord := match event.code.record? with
    | some entry =>
      "\n  Description: " ++ entry.description ++ "\n  Recommended action: " ++ entry.action
    | none => ""
  let details :=
    if event.context.isEmpty then ""
    else "\n  Context:" ++
      String.join (event.context.map fun (name, value) => "\n    " ++ name ++ ": " ++ value)
  event.line ++ "\n  Category: " ++ event.code.category ++
    "\n  Severity: " ++ event.code.severity.label ++ onError ++ onRecord ++ details

end Event

end LexReport.Notice
