import EdgeDeviceCore.Semantics.StoppedRun

/-!
# The operations that a program can issue

What none of the operations of a program breaks holds throughout its runs, whatever their outcomes.
So a program is gone through once for the operations that it can issue, and each property is left to
the single operations.
-/

namespace EdgeDeviceCore.Semantics.StoppedRun

open AtomicProgram

variable {Op Outcome State Result First Second : Type} {Reply : Op → Type}

/-- Every operation that the program can come to is among these. -/
def Issues (allowed : Op → Prop) : AtomicProgram Op Reply Result → Prop
  | .done _ => True
  | .issue op next => allowed op ∧ ∀ reply, Issues allowed (next reply)

section Issues

variable {allowed : Op → Prop}

theorem issues_pure (result : Result) :
    Issues allowed (pure result : AtomicProgram Op Reply Result) :=
  trivial

theorem issues_op {op : Op} (h : allowed op) :
    Issues allowed (.issue op .done : AtomicProgram Op Reply _) :=
  ⟨h, fun _ ↦ trivial⟩

theorem Issues.bind {program : AtomicProgram Op Reply First}
    {next : First → AtomicProgram Op Reply Second} (hprogram : Issues allowed program)
    (hnext : ∀ result, Issues allowed (next result)) : Issues allowed (program >>= next) := by
  induction program with
  | done result => exact hnext result
  | issue op rest ih => exact ⟨hprogram.1, fun reply ↦ ih reply (hprogram.2 reply)⟩

theorem issues_true (program : AtomicProgram Op Reply Result) : Issues (fun _ ↦ True) program := by
  induction program with
  | done result => exact trivial
  | issue op next ih => exact ⟨trivial, ih⟩

variable {step : Step Op Outcome State Reply} {invariant : State → Prop}
  {program : AtomicProgram Op Reply Result} {state : State}

theorem Issues.throughout (h : Issues allowed program)
    (hstep : ∀ op, allowed op → ∀ outcome state, invariant state →
      invariant (step op outcome state).2) (hstate : invariant state) :
    Throughout step invariant (fun _ later ↦ invariant later) program state := by
  induction program generalizing state with
  | done result => exact hstate
  | issue op next ih =>
      refine ⟨hstate, fun outcome ↦ ?_⟩
      have hkept := hstep op h.1 outcome state hstate
      rcases hop : step op outcome state with ⟨_ | reply, after⟩
      · rw [hop] at hkept
        exact hkept
      · rw [hop] at hkept
        exact ih reply (h.2 reply) hkept

/-- Only the outcomes that are given have to keep the invariant. -/
theorem Issues.run {outcomes : List Outcome} (h : Issues allowed program)
    (hstep : ∀ op, allowed op → ∀ outcome ∈ outcomes, ∀ state, invariant state →
      invariant (step op outcome state).2) (hstate : invariant state) :
    invariant (StoppedRun.run step program outcomes state).2 := by
  induction program generalizing outcomes state with
  | done result =>
      rw [StoppedRun.run]
      exact hstate
  | issue op next ih =>
      cases outcomes with
      | nil => exact hstate
      | cons outcome outcomes =>
          have hkept := hstep op h.1 outcome List.mem_cons_self state hstate
          rw [StoppedRun.run]
          rcases hop : step op outcome state with ⟨_ | reply, after⟩
          · rw [hop] at hkept
            exact hkept
          · rw [hop] at hkept
            exact ih reply (h.2 reply)
              (fun op hop other hother ↦ hstep op hop other (List.mem_cons_of_mem _ hother)) hkept

end Issues

end EdgeDeviceCore.Semantics.StoppedRun
