import LexReport.Json.Printer
import LexReport.Notice.Event
import LexReport.Time.Instant

/-! An event as one line of JSON, its fields in the order of their names. -/

set_option autoImplicit false

namespace LexReport.Notice

open Json (Value)

def errorRecordForm (code : Code) : Value :=
  .ofFields [("description", .ofString code.description),
    ("recommended_action", .ofString code.action),
    ("recoverable", .bool code.isRecoverable), ("requires_halt", .bool code.requiresHalt)]

def spanForm (span : Source.Span) : Value :=
  .ofFields [("end_column", .ofNat span.last.column.toNat),
    ("end_line", .ofNat span.last.line.toNat),
    ("start_column", .ofNat span.first.column.toNat),
    ("start_line", .ofNat span.first.line.toNat)]

namespace Event

def form (moment : Instant) (event : Event) : Value :=
  .ofFields <|
    [("category", .ofString event.code.category), ("code", .ofString event.code.text)] ++
    (if event.context.isEmpty then []
      else [("context", .ofFields (event.context.map fun (name, value) =>
        (name, .ofString value)))]) ++
    (if event.level = .error then [("error_metadata", errorRecordForm event.code)] else []) ++
    [("level", .ofString event.level.label), ("message", .ofString event.message),
      ("severity", .ofString event.code.severity.label)] ++
    (match event.span with
      | some span => [("span", spanForm span)]
      | none => []) ++
    [("timestamp", .ofString moment.preciseText)]

def jsonLine (moment : Instant) (event : Event) : String :=
  (event.form moment).compact

end Event

end LexReport.Notice
