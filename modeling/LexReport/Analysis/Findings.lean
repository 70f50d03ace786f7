import LexReport.Analysis.Error
import LexReport.Notice.Stage
import LexReport.Scan.Run
import LexReport.Symbol.Table

/-! What is found in a text: its tokens, its symbols, and what the scan gathered. -/

set_option autoImplicit false

namespace LexReport.Analysis

open Notice

structure Findings where
  tokens : List Token
  symbols : Symbol.Table
  gathered : Scan.Gathered

def scanStage (settings : Scan.Settings) (text : String) :
    Stage (Stop Scan.Error) (List Token × Scan.Gathered) :=
  let scanned := Scan.scan settings text
  ⟨scanned.events, scanned.tokens.map (·, scanned.gathered)⟩

def examine (settings : Scan.Settings) (text : String) : Stage (Stop Error) Findings := do
  let (tokens, gathered) ← (scanStage settings text).mapError (Stop.map .scan)
  let symbols ← (Symbol.tabulate settings.limits.symbols settings.symbols tokens).mapError
    fun error => .failed (.symbols error)
  return ⟨tokens, symbols, gathered⟩

end LexReport.Analysis
