import LexReport.Files.Work

/-! What steps of work on files leave, whatever they say, and what is said before a failure. -/

set_option autoImplicit false

namespace LexReport.Files

variable {ε δ α β : Type}

def Worked.left (worked : Worked ε α) : Except ε α × Tree := (worked.result, worked.tree)

namespace Work

theorem look_left (stage : Tree → Notice.Stage ε α) (tree : Tree) :
    (look stage tree).left = ((stage tree).result, tree) := rfl

theorem ofStage_left (stage : Notice.Stage ε α) (tree : Tree) :
    (ofStage stage tree).left = (stage.result, tree) := rfl

theorem announce_left (event : Notice.Event) (tree : Tree) :
    (announce (ε := ε) event tree).left = (.ok (), tree) := rfl

theorem attempt_left (work : Work ε α) (tree : Tree) :
    (work.attempt (δ := δ) tree).left =
      (.ok (work tree).left.1.toOption, (work tree).left.2) := rfl

theorem mapError_left (work : Work ε α) (f : ε → δ) (tree : Tree) :
    (work.mapError f tree).left = ((work tree).left.1.mapError f, (work tree).left.2) := rfl

theorem bind_left (work : Work ε α) (next : α → Work ε β) (tree : Tree) :
    ((work >>= next) tree).left =
      match (work tree).left with
      | (.error error, tree) => (.error error, tree)
      | (.ok value, tree) => (next value tree).left := by
  show (andThen work next tree).left = _
  unfold andThen Worked.left
  split <;> rename_i worked <;> rw [worked]

theorem bind_of_ok {work : Work ε α} (next : α → Work ε β) {tree after : Tree}
    {events : List Notice.Event} {value : α} (step : work tree = ⟨events, .ok value, after⟩) :
    (work >>= next) tree =
      ⟨events ++ (next value after).events, (next value after).result,
        (next value after).tree⟩ := by
  show andThen work next tree = _
  rw [andThen, step]

theorem bind_of_error {work : Work ε α} (next : α → Work ε β) {tree after : Tree}
    {events : List Notice.Event} {error : ε} (step : work tree = ⟨events, .error error, after⟩) :
    (work >>= next) tree = ⟨events, .error error, after⟩ := by
  show andThen work next tree = _
  rw [andThen, step]

theorem announce_eq (event : Notice.Event) (tree : Tree) :
    announce (ε := ε) event tree = ⟨[event], .ok (), tree⟩ := rfl

theorem look_eq {stage : Tree → Notice.Stage ε α} {tree : Tree} {result : Except ε α}
    (ended : (stage tree).result = result) :
    look stage tree = ⟨(stage tree).events, result, tree⟩ := by
  rw [look, ended]

theorem ofStage_eq {stage : Notice.Stage ε α} {result : Except ε α}
    (ended : stage.result = result) (tree : Tree) :
    ofStage stage tree = ⟨stage.events, result, tree⟩ := look_eq ended

theorem mapError_of_ok {work : Work ε α} {tree after : Tree} {events : List Notice.Event}
    {value : α} (step : work tree = ⟨events, .ok value, after⟩) (f : ε → δ) :
    work.mapError f tree = ⟨events, .ok value, after⟩ := by
  rw [mapError, step]
  rfl

theorem mapError_of_error {work : Work ε α} {tree after : Tree} {events : List Notice.Event}
    {error : ε} (step : work tree = ⟨events, .error error, after⟩) (f : ε → δ) :
    work.mapError f tree = ⟨events, .error (f error), after⟩ := by
  rw [mapError, step]
  rfl

/-- Where steps that follow each other fail: at the first, and the other does not begin, or at the
other after the first is done. -/
theorem fails_of_bind {work : Work ε α} {next : α → Work ε β} {tree : Tree} {error : ε}
    (failed : ((work >>= next) tree).result = .error error) :
    (work tree).result = .error error ∧ ((work >>= next) tree).events = (work tree).events ∨
      ∃ value, (work tree).result = .ok value ∧
        (next value (work tree).tree).result = .error error ∧
        ((work >>= next) tree).events =
          (work tree).events ++ (next value (work tree).tree).events := by
  rcases step : work tree with ⟨events, result, after⟩
  cases result with
  | error other =>
    rw [bind_of_error next step] at failed ⊢
    obtain rfl := Except.error.inj failed
    exact .inl ⟨rfl, rfl⟩
  | ok value =>
    rw [bind_of_ok next step] at failed ⊢
    exact .inr ⟨value, rfl, failed, rfl⟩

theorem fails_of_mapError {work : Work ε α} {f : ε → δ} {tree : Tree} {error : δ}
    (failed : (work.mapError f tree).result = .error error) :
    ∃ cause, (work tree).result = .error cause ∧ f cause = error := by
  change (work tree).result.mapError f = .error error at failed
  cases ended : (work tree).result with
  | ok value =>
    rw [ended] at failed
    contradiction
  | error cause =>
    rw [ended] at failed
    exact ⟨cause, rfl, Except.error.inj failed⟩

theorem ok_of_mapError {work : Work ε α} {f : ε → δ} {tree : Tree} {value : α}
    (ok : (work.mapError f tree).result = .ok value) : (work tree).result = .ok value := by
  change (work tree).result.mapError f = .ok value at ok
  cases ended : (work tree).result with
  | ok other =>
    rw [ended] at ok
    exact congrArg _ (Except.ok.inj ok)
  | error cause =>
    rw [ended] at ok
    contradiction

end Work

end LexReport.Files
