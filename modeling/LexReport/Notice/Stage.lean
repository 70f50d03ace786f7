import LexReport.Notice.Event

/-! Steps of work that say events and may fail. What was said before a failure stays said. -/

set_option autoImplicit false

namespace LexReport

/-- Why work comes to no result: it fails with an error, or it breaks off in a panic. -/
inductive Stop (ε : Type) where
  | failed (error : ε)
  | panicked
  deriving DecidableEq, Repr

def Stop.map {ε δ : Type} (f : ε → δ) : Stop ε → Stop δ
  | failed error => failed (f error)
  | panicked => panicked

namespace Notice

structure Stage (ε α : Type) where
  events : List Event
  result : Except ε α

namespace Stage

variable {ε α β : Type}

def andThen (stage : Stage ε α) (next : α → Stage ε β) : Stage ε β :=
  match stage.result with
  | .error error => ⟨stage.events, .error error⟩
  | .ok value =>
    let following := next value
    ⟨stage.events ++ following.events, following.result⟩

instance : Monad (Stage ε) where
  pure value := ⟨[], .ok value⟩
  bind := andThen

def announce (event : Event) : Stage ε Unit := ⟨[event], .ok ()⟩

def fail (error : ε) (event : Event) : Stage ε α := ⟨[event], .error error⟩

def mapError {δ : Type} (stage : Stage ε α) (f : ε → δ) : Stage δ α :=
  ⟨stage.events, stage.result.mapError f⟩

@[simp] theorem pure_events (value : α) : (pure value : Stage ε α).events = [] := rfl

@[simp] theorem pure_result (value : α) : (pure value : Stage ε α).result = .ok value := rfl

theorem bind_of_ok {stage : Stage ε α} {value : α} (next : α → Stage ε β)
    (ok : stage.result = .ok value) :
    stage >>= next = ⟨stage.events ++ (next value).events, (next value).result⟩ := by
  simp [Bind.bind, andThen, ok]

theorem bind_of_error {stage : Stage ε α} {error : ε} (next : α → Stage ε β)
    (failed : stage.result = .error error) :
    stage >>= next = ⟨stage.events, .error error⟩ := by
  simp [Bind.bind, andThen, failed]

end Stage

end Notice

end LexReport
