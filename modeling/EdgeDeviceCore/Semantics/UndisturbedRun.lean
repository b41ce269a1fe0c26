import EdgeDeviceCore.Semantics.StoppedRun

/-!
# Runs that nothing stops

A program of atomic operations that all have the same outcome. Such a run ends by itself, and any
list with enough of these outcomes gives it. What it makes of a view of the state follows from its
operations by the rules below.
-/

namespace EdgeDeviceCore.Semantics.StoppedRun

open AtomicProgram

variable {Op Outcome State View Result First Second : Type} {Reply : Op → Type}

/-- Give every operation the same outcome. -/
def runWith (step : Step Op Outcome State Reply) (outcome : Outcome) :
    AtomicProgram Op Reply Result → State → Ending Result × State
  | .done result, state => (.finished result, state)
  | .issue op next, state =>
      match step op outcome state with
      | (some reply, after) => runWith step outcome (next reply) after
      | (none, after) => (.failed, after)

section Runs

variable {step : Step Op Outcome State Reply} {outcome : Outcome}

/-- Enough outcomes run the program to its end, whatever comes after them. -/
theorem exists_run_eq_runWith (program : AtomicProgram Op Reply Result) (state : State) :
    ∃ count, ∀ rest, run step program (List.replicate count outcome ++ rest) state =
      runWith step outcome program state := by
  induction program generalizing state with
  | done result => exact ⟨0, fun _ ↦ by rw [run, runWith]⟩
  | issue op next ih =>
      rcases hstep : step op outcome state with ⟨_ | reply, after⟩
      · refine ⟨1, fun rest ↦ ?_⟩
        rw [List.replicate_one, List.singleton_append, run, runWith, hstep]
      · obtain ⟨count, hcount⟩ := ih reply after
        refine ⟨count + 1, fun rest ↦ ?_⟩
        rw [List.replicate_succ, List.cons_append, run, runWith, hstep]
        exact hcount rest

end Runs

/-! ## What a run makes of a view -/

/-- From every state with one view the program comes to its end with a result, in a state with
another. -/
def Completes (step : Step Op Outcome State Reply) (outcome : Outcome) (view : State → View)
    (program : AtomicProgram Op Reply Result) (before : View) (result : Result) (after : View) :
    Prop :=
  ∀ state, view state = before →
    ∃ later, runWith step outcome program state = (.finished result, later) ∧ view later = after

section Completes

variable {step : Step Op Outcome State Reply} {outcome : Outcome} {view : State → View}
  {before middle after : View}

theorem completes_done (result : Result) :
    Completes step outcome view (.done result) before result before :=
  fun state hstate ↦ ⟨state, rfl, hstate⟩

theorem completes_issue {op : Op} {reply : Reply op}
    (h : ∀ state, view state = before →
      ∃ later, step op outcome state = (some reply, later) ∧ view later = after) :
    Completes step outcome view (.issue op .done) before reply after := by
  intro state hstate
  obtain ⟨later, hstep, hlater⟩ := h state hstate
  refine ⟨later, ?_, hlater⟩
  rw [runWith, hstep]
  rfl

theorem Completes.bind {program : AtomicProgram Op Reply First} {first : First}
    {next : First → AtomicProgram Op Reply Second} {second : Second}
    (hprogram : Completes step outcome view program before first middle)
    (hnext : Completes step outcome view (next first) middle second after) :
    Completes step outcome view (program >>= next) before second after := by
  intro state hstate
  obtain ⟨between, hbetween, hmiddle⟩ := hprogram state hstate
  obtain ⟨later, hlater, hafter⟩ := hnext between hmiddle
  refine ⟨later, ?_, hafter⟩
  clear hprogram hnext hstate
  induction program generalizing state with
  | done result =>
      obtain ⟨hresult, rfl⟩ := Prod.mk.inj hbetween
      obtain rfl := Ending.finished.inj hresult
      exact hlater
  | issue op rest ih =>
      rw [runWith] at hbetween
      rw [issue_bind, runWith]
      rcases hstep : step op outcome state with ⟨_ | reply, state⟩
      · rw [hstep] at hbetween
        cases congrArg Prod.fst hbetween
      · rw [hstep] at hbetween
        exact ih reply state hbetween

end Completes

end EdgeDeviceCore.Semantics.StoppedRun
