import LexReport.Json.Printer
import LexReport.Scan.Run
import LexReport.Symbol.Table
import LexReport.Time.Instant
import LexReport.Token.Form

/-! The summary of an analysis as a JSON document. -/

set_option autoImplicit false

namespace LexReport

open Json (Value)

def Symbol.Entry.form (entry : Entry) : Value :=
  .ofFields [("name", .ofString entry.name), ("classification", .ofString entry.kind.label),
    ("first_seen", entry.firstSeen.form)]

def Symbol.Table.form (table : Table) : Value := .array (table.entries.map Entry.form)

def Symbol.IdentifierRecord.form (record : IdentifierRecord) : Value :=
  .ofFields [("name", .ofString record.name), ("token_type", record.category.form),
    ("line", .ofNat record.line.toNat), ("scope", .ofString record.scope)]

def Symbol.Identifiers.form (identifiers : Identifiers) : Value :=
  .ofFields [("records", .array (identifiers.records.toList.map IdentifierRecord.form))]

def Scan.Tally.form {κ : Type} (name : κ → String) (tally : Tally κ) : Value :=
  .ofFields (tally.map fun (key, count) => (name key, .ofNat count))

def Scan.Metrics.form (metrics : Metrics) : Value :=
  .ofFields [("total_tokens", .ofNat metrics.tokens),
    ("datatype_tokens", .ofNat metrics.datatypes),
    ("keyword_tokens", .ofNat metrics.keywords),
    ("identifier_tokens", .ofNat metrics.identifiers),
    ("operator_tokens", .ofNat metrics.operators),
    ("literal_tokens", .ofNat metrics.literals),
    ("suppressed_matches", .ofNat metrics.suppressed),
    ("comment_count", .ofNat metrics.comments),
    ("max_comment_length", .ofNat metrics.longestComment),
    ("max_string_length", .ofNat metrics.longestString),
    ("gap_count", .ofNat metrics.gaps),
    ("invalid_chars", .ofNat metrics.gapChars),
    ("category_counts", (metrics.byCategory.inOrder Category.all).form Category.name),
    ("operator_usage_patterns", metrics.byOperator.form id)]

def Scan.Gap.form (gap : Gap) : Value :=
  .ofFields [("span", gap.span.form), ("text", .ofString gap.text)]

namespace Report

structure Summary where
  /-- The paths of the source and of the report, as they were given. -/
  input : String
  report : String
  analyzedAt : Instant
  profile : String
  tokens : List Token
  symbols : Symbol.Table
  gathered : Scan.Gathered

def Summary.form (summary : Summary) : Value :=
  .ofFields [("input", .ofString summary.input), ("report", .ofString summary.report),
    ("analyzed_at", .ofString summary.analyzedAt.wholeText),
    ("build_profile", .ofString summary.profile),
    ("total_tokens", .ofNat summary.tokens.length),
    ("total_unique_symbols", .ofNat summary.symbols.size),
    ("total_unique_identifiers", .ofNat summary.gathered.identifiers.size),
    ("tokens", Token.listForm summary.tokens),
    ("symbols", summary.symbols.form),
    ("identifiers", summary.gathered.identifiers.form),
    ("metrics", summary.gathered.metrics.form),
    ("diagnostics", .array (summary.gathered.gaps.toList.map Scan.Gap.form))]

def Summary.text (summary : Summary) : String := summary.form.pretty

/-- There is nothing in a summary that a document could not hold. -/
def Summary.document (summary : Summary) : Except String String := .ok summary.text

end Report

end LexReport
