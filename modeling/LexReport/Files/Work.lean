import LexReport.Files.Tree
import LexReport.Notice.Stage

/-! Steps of work on files, which say events, may change files and may fail. What was said and what
was changed before a failure stays. -/

set_option autoImplicit false

namespace LexReport.Files

open Notice

structure Worked (ε α : Type) where
  events : List Event
  result : Except ε α
  tree : Tree

def Work (ε α : Type) : Type := Tree → Worked ε α

namespace Work

variable {ε δ α β : Type}

/-- Go on with the result of a step and the files that it leaves; a failure ends the work. -/
def andThen (work : Work ε α) (next : α → Work ε β) : Work ε β := fun tree =>
  match work tree with
  | ⟨events, .error error, tree⟩ => ⟨events, .error error, tree⟩
  | ⟨events, .ok value, tree⟩ =>
    let following := next value tree
    { following with events := events ++ following.events }

instance : Monad (Work ε) where
  pure value tree := ⟨[], .ok value, tree⟩
  bind := andThen

def look (stage : Tree → Stage ε α) : Work ε α := fun tree =>
  ⟨(stage tree).events, (stage tree).result, tree⟩

def ofStage (stage : Stage ε α) : Work ε α := look fun _ => stage

def announce (event : Event) : Work ε Unit := ofStage (.announce event)

def attempt (work : Work ε α) : Work δ (Option α) := fun tree =>
  let worked := work tree
  { worked with result := .ok worked.result.toOption }

def mapError (work : Work ε α) (f : ε → δ) : Work δ α := fun tree =>
  let worked := work tree
  { worked with result := worked.result.mapError f }

end Work

end LexReport.Files
