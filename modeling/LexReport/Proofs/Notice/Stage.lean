import LexReport.Notice.Stage

/-! When steps of work succeed, and with what. -/

set_option autoImplicit false

namespace LexReport.Notice.Stage

variable {ε δ α β : Type}

theorem bind_eq_ok_iff {stage : Stage ε α} {next : α → Stage ε β} {last : β} :
    (stage >>= next).result = .ok last ↔
      ∃ value, stage.result = .ok value ∧ (next value).result = .ok last := by
  cases ended : stage.result with
  | error error =>
    rw [bind_of_error next ended]
    simp
  | ok value =>
    rw [bind_of_ok next ended]
    simp

theorem bind_eq_error_iff {stage : Stage ε α} {next : α → Stage ε β} {error : ε} :
    (stage >>= next).result = .error error ↔
      stage.result = .error error ∨
        ∃ value, stage.result = .ok value ∧ (next value).result = .error error := by
  cases ended : stage.result with
  | error other =>
    rw [bind_of_error next ended]
    simp
  | ok value =>
    rw [bind_of_ok next ended]
    simp

theorem mapError_eq_ok_iff {stage : Stage ε α} {f : ε → δ} {value : α} :
    (stage.mapError f).result = .ok value ↔ stage.result = .ok value := by
  obtain ⟨events, result⟩ := stage
  cases result with
  | error error => exact iff_of_false nofun nofun
  | ok other =>
    show Except.ok other = Except.ok value ↔ Except.ok other = Except.ok value
    rw [Except.ok.injEq, Except.ok.injEq]

theorem mapError_eq_error_iff {stage : Stage ε α} {f : ε → δ} {error : δ} :
    (stage.mapError f).result = .error error ↔
      ∃ cause, stage.result = .error cause ∧ f cause = error := by
  obtain ⟨events, result⟩ := stage
  constructor
  · intro failed
    cases result with
    | error cause => exact ⟨cause, rfl, Except.error.inj failed⟩
    | ok value => cases failed
  · rintro ⟨cause, rfl, rfl⟩
    rfl

theorem forM_announce (events : List Event) :
    (events.forM (announce (ε := ε))).result = .ok () := by
  induction events with
  | nil => rfl
  | cons event rest ih =>
    show (announce event >>= fun _ => rest.forM announce).result = .ok ()
    rw [bind_of_ok _ rfl]
    exact ih

end LexReport.Notice.Stage
