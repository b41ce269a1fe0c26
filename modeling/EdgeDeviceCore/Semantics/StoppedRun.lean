import EdgeDeviceCore.Semantics.AtomicProgram

/-!
# Runs that may stop anywhere

A program of atomic operations is run against a list of outcomes, one for each operation. An
operation may end the run with an error, and a list that is too short stands for a run that is
killed. So the states in which runs end are all the states that the program can be stopped in.
What holds throughout the runs of a program follows from its operations by the rules below.
-/

namespace EdgeDeviceCore.Semantics.StoppedRun

open AtomicProgram

variable {Op Outcome State Result First Second : Type} {Reply : Op → Type}

inductive Ending (Result : Type) where
  | finished (result : Result)
  | failed
  | killed
deriving DecidableEq, Repr

/-- What one operation does with an outcome: without a reply the run ends in an error. -/
abbrev Step (Op Outcome State : Type) (Reply : Op → Type) : Type :=
  (op : Op) → Outcome → State → Option (Reply op) × State

def run (step : Step Op Outcome State Reply) :
    AtomicProgram Op Reply Result → List Outcome → State → Ending Result × State
  | .done result, _, state => (.finished result, state)
  | .issue _ _, [], state => (.killed, state)
  | .issue op next, outcome :: outcomes, state =>
      match step op outcome state with
      | (some reply, after) => run step (next reply) outcomes after
      | (none, after) => (.failed, after)

/-- Wherever a run stops an invariant holds, and where it finishes a condition on the result. -/
def Meets (invariant : State → Prop) (post : Result → State → Prop) :
    Ending Result × State → Prop
  | (.finished result, state) => post result state
  | (.failed, state) | (.killed, state) => invariant state

/-- The invariant holds wherever the program can be stopped, and the condition where it can
finish. -/
def Throughout (step : Step Op Outcome State Reply) (invariant : State → Prop)
    (post : Result → State → Prop) : AtomicProgram Op Reply Result → State → Prop
  | .done result, state => post result state
  | .issue op next, state => invariant state ∧ ∀ outcome,
      match step op outcome state with
      | (some reply, after) => Throughout step invariant post (next reply) after
      | (none, after) => invariant after

section Rules

variable {step : Step Op Outcome State Reply} {invariant : State → Prop}
  {post : Result → State → Prop} {middle : First → State → Prop} {after : Second → State → Prop}

theorem Meets.of_finished {ended : Ending Result × State} (h : Meets invariant post ended)
    {result : Result} (hfinished : ended.1 = .finished result) : post result ended.2 := by
  obtain ⟨ending, state⟩ := ended
  obtain rfl : ending = .finished result := hfinished
  exact h

/-- Runs meet what holds throughout. -/
theorem run_meets {program : AtomicProgram Op Reply Result} {state : State}
    (h : Throughout step invariant post program state) (outcomes : List Outcome) :
    Meets invariant post (run step program outcomes state) := by
  induction program generalizing state outcomes with
  | done result => exact h
  | issue op next ih =>
      cases outcomes with
      | nil => exact h.1
      | cons outcome outcomes =>
          have houtcome := h.2 outcome
          rw [run]
          rcases hstep : step op outcome state with ⟨_ | reply, later⟩
          · rw [hstep] at houtcome
            exact houtcome
          · rw [hstep] at houtcome
            exact ih reply houtcome outcomes

theorem Throughout.bind {program : AtomicProgram Op Reply First}
    {next : First → AtomicProgram Op Reply Second} {state : State}
    (h : Throughout step invariant middle program state)
    (hnext : ∀ result state, middle result state →
      Throughout step invariant after (next result) state) :
    Throughout step invariant after (program >>= next) state := by
  induction program generalizing state with
  | done result => exact hnext result state h
  | issue op rest ih =>
      refine ⟨h.1, fun outcome ↦ ?_⟩
      have houtcome := h.2 outcome
      rcases hstep : step op outcome state with ⟨_ | reply, later⟩
      · rw [hstep] at houtcome
        exact houtcome
      · rw [hstep] at houtcome
        exact ih reply houtcome

theorem Throughout.mono {program : AtomicProgram Op Reply Result} {state : State}
    {weaker : State → Prop} {later : Result → State → Prop}
    (h : Throughout step invariant post program state)
    (hinvariant : ∀ state, invariant state → weaker state)
    (hpost : ∀ result state, post result state → later result state) :
    Throughout step weaker later program state := by
  induction program generalizing state with
  | done result => exact hpost result state h
  | issue op next ih =>
      refine ⟨hinvariant state h.1, fun outcome ↦ ?_⟩
      have houtcome := h.2 outcome
      rcases hstep : step op outcome state with ⟨_ | reply, after⟩
      · rw [hstep] at houtcome
        exact hinvariant after houtcome
      · rw [hstep] at houtcome
        exact ih reply houtcome

end Rules

/-- Outcomes of one kind make another step. -/
theorem run_map {Kind : Type} (step : Step Op Outcome State Reply) (outcome : Kind → Outcome)
    (program : AtomicProgram Op Reply Result) (kinds : List Kind) (state : State) :
    run step program (kinds.map outcome) state =
      run (fun op kind ↦ step op (outcome kind)) program kinds state := by
  induction program generalizing kinds state with
  | done result => rw [run, run]
  | issue op next ih =>
      cases kinds with
      | nil => rfl
      | cons kind kinds =>
          rw [List.map_cons, run, run]
          rcases step op (outcome kind) state with ⟨_ | reply, after⟩
          · rfl
          · exact ih reply kinds after

/-! ## Following a run on points of an abstraction -/

section Leads

variable {Point : Type}

/-- The program leads from a point to points that meet a condition on them and on the result, and
wherever it stops the state is at some point. -/
def Leads (step : Step Op Outcome State Reply) (stands : Point → State → Prop)
    (program : AtomicProgram Op Reply Result) (point : Point) (post : Result → Point → Prop) :
    Prop :=
  ∀ state, stands point state →
    Throughout step (fun state ↦ ∃ point, stands point state)
      (fun result state ↦ ∃ point, post result point ∧ stands point state) program state

variable {step : Step Op Outcome State Reply} {stands : Point → State → Prop} {point : Point}

theorem leads_done {post : Result → Point → Prop} {result : Result} (h : post result point) :
    Leads step stands (.done result) point post :=
  fun _ hstate ↦ ⟨point, h, hstate⟩

theorem leads_issue {op : Op} {post : Reply op → Point → Prop}
    (h : ∀ state, stands point state → ∀ outcome,
      match step op outcome state with
      | (some reply, after) => ∃ point, post reply point ∧ stands point after
      | (none, after) => ∃ point, stands point after) :
    Leads step stands (.issue op .done) point post :=
  fun state hstate ↦ ⟨⟨point, hstate⟩, h state hstate⟩

theorem Leads.bind {program : AtomicProgram Op Reply First}
    {next : First → AtomicProgram Op Reply Second} {middle : First → Point → Prop}
    {post : Second → Point → Prop} (h : Leads step stands program point middle)
    (hnext : ∀ result point, middle result point → Leads step stands (next result) point post) :
    Leads step stands (program >>= next) point post := by
  intro state hstate
  apply Throughout.bind (h state hstate)
  rintro result later ⟨point, hpoint, hlater⟩
  exact hnext result point hpoint later hlater

/-- A program that leads to one point is followed by the next from there. -/
theorem Leads.next {program : AtomicProgram Op Reply First}
    {next : First → AtomicProgram Op Reply Second} {middle : Point}
    {post : Second → Point → Prop}
    (h : Leads step stands program point fun _ later ↦ later = middle)
    (hnext : ∀ result, Leads step stands (next result) middle post) :
    Leads step stands (program >>= next) point post := by
  apply h.bind
  rintro result _ rfl
  exact hnext result

theorem Leads.mono {program : AtomicProgram Op Reply Result} {post weaker : Result → Point → Prop}
    (h : Leads step stands program point post)
    (hpost : ∀ result point, post result point → weaker result point) :
    Leads step stands program point weaker := by
  intro state hstate
  apply Throughout.mono (h state hstate) (fun _ hsome ↦ hsome)
  rintro result later ⟨point, hpoint, hlater⟩
  exact ⟨point, hpost result point hpoint, hlater⟩

/-- However a run ends, it ends at some point. -/
theorem Leads.run {program : AtomicProgram Op Reply Result} {post : Result → Point → Prop}
    (h : Leads step stands program point post) {state : State} (hstate : stands point state)
    (outcomes : List Outcome) :
    ∃ point, stands point (StoppedRun.run step program outcomes state).2 := by
  have hmeets := run_meets (h state hstate) outcomes
  rcases hrun : StoppedRun.run step program outcomes state with ⟨_ | _ | _, later⟩
  · rw [hrun] at hmeets
    obtain ⟨point, -, hlater⟩ := hmeets
    exact ⟨point, hlater⟩
  · rw [hrun] at hmeets
    exact hmeets
  · rw [hrun] at hmeets
    exact hmeets

end Leads

end EdgeDeviceCore.Semantics.StoppedRun
