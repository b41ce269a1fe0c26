import Mathlib

/-!
# Runs of a transition system

A transition system is a partial step function: an action that is not enabled in a state has no
step. A run is a list of actions that are enabled one after another. The second part is about
systems that acquire and release resources: where the resources held form a stack and nothing is
acquired after the first release, a run releases what it acquired in the reverse order.
-/

namespace EdgeDeviceCore.Semantics.TransitionRun

variable {State Action : Type} {step : State → Action → Option State}

def run (step : State → Action → Option State) (initial : State) (actions : List Action) :
    Option State :=
  actions.foldlM step initial

@[simp]
theorem run_nil (initial : State) : run step initial [] = some initial := rfl

theorem run_append {initial after : State} {first rest : List Action} :
    run step initial (first ++ rest) = some after ↔
      ∃ middle, run step initial first = some middle ∧ run step middle rest = some after := by
  rw [run, List.foldlM_append, Option.bind_eq_bind, Option.bind_eq_some_iff]
  rfl

theorem run_singleton (initial : State) (action : Action) :
    run step initial [action] = step initial action := by
  simp only [run, List.foldlM_cons, List.foldlM_nil]
  exact Option.bind_fun_some _

theorem run_concat {initial after : State} {actions : List Action} {action : Action} :
    run step initial (actions ++ [action]) = some after ↔
      ∃ middle, run step initial actions = some middle ∧ step middle action = some after := by
  simp only [run_append, run_singleton]

/-- What holds at the start and is kept by every step holds after every run. -/
theorem invariant_run {initial : State} (invariant : List Action → State → Prop)
    (hinitial : invariant [] initial)
    (hstep : ∀ actions state action after, invariant actions state →
      step state action = some after → invariant (actions ++ [action]) after)
    {actions : List Action} {after : State} (hrun : run step initial actions = some after) :
    invariant actions after := by
  induction actions using List.reverseRecOn generalizing after with
  | nil =>
      obtain rfl := Option.some.inj hrun
      exact hinitial
  | append_singleton actions action ih =>
      obtain ⟨middle, hmiddle, hlast⟩ := run_concat.mp hrun
      exact hstep actions middle action after (ih hmiddle) hlast

/-- Where every action has a step and the step stays in step with a function on another state, so
does every run. -/
theorem exists_run_of_simulation {Abstract : Type} {next : Abstract → Action → Abstract}
    {related : Abstract → State → Prop} {initial : State} {abstract : Abstract}
    {actions : List Action} (hinitial : related abstract initial)
    (hstep : ∀ abstract state, ∀ action ∈ actions, related abstract state →
      ∃ after, step state action = some after ∧ related (next abstract action) after) :
    ∃ after, run step initial actions = some after ∧
      related (actions.foldl next abstract) after := by
  induction actions using List.reverseRecOn with
  | nil => exact ⟨initial, rfl, hinitial⟩
  | append_singleton actions action ih =>
      obtain ⟨middle, hmiddle, hrelated⟩ := ih fun abstract state action hmem ↦
        hstep abstract state action (List.mem_append_left _ hmem)
      obtain ⟨after, hafter, hlast⟩ := hstep _ middle action (by simp) hrelated
      refine ⟨after, run_concat.mpr ⟨middle, hmiddle, hafter⟩, ?_⟩
      rwa [List.foldl_concat]

/-! ## Resources -/

section Resources

variable {Resource : Type}

/-- A stack discipline for resources: what a step acquires is pushed, what it releases is popped,
and nothing is acquired once something has been released. -/
structure Disciplined (step : State → Action → Option State)
    (acquires releases : Action → Option Resource) (held : State → List Resource)
    (acquiring : State → Prop) : Prop where
  acquire : ∀ {state action after resource}, step state action = some after →
    acquires action = some resource → acquiring state ∧ held after = resource :: held state
  release : ∀ {state action after resource}, step state action = some after →
    releases action = some resource → acquires action = none ∧ ¬ acquiring after ∧
      held state = resource :: held after
  neither : ∀ {state action after}, step state action = some after →
    acquires action = none → releases action = none → held after = held state
  phase : ∀ {state action after}, step state action = some after →
    acquiring after → acquiring state

variable {acquires releases : Action → Option Resource} {held : State → List Resource}
  {acquiring : State → Prop}

theorem Disciplined.released_of_acquiring
    (hdisciplined : Disciplined step acquires releases held acquiring) {initial after : State}
    {actions : List Action} (hrun : run step initial actions = some after)
    (hacquiring : acquiring after) : actions.filterMap releases = [] := by
  induction actions using List.reverseRecOn generalizing after with
  | nil => rfl
  | append_singleton actions action ih =>
      obtain ⟨middle, hmiddle, hlast⟩ := run_concat.mp hrun
      have hnone : releases action = none := by
        cases hreleases : releases action with
        | none => rfl
        | some resource => exact absurd hacquiring (hdisciplined.release hlast hreleases).2.1
      rw [List.filterMap_append, ih hmiddle (hdisciplined.phase hlast hacquiring)]
      simp [hnone]

/-- What has been released and what is still held is what was acquired, last first. -/
theorem Disciplined.released_append_held
    (hdisciplined : Disciplined step acquires releases held acquiring) {initial after : State}
    (hinitial : held initial = []) {actions : List Action}
    (hrun : run step initial actions = some after) :
    actions.filterMap releases ++ held after = (actions.filterMap acquires).reverse := by
  induction actions using List.reverseRecOn generalizing after with
  | nil =>
      obtain rfl := Option.some.inj hrun
      exact hinitial
  | append_singleton actions action ih =>
      obtain ⟨middle, hmiddle, hlast⟩ := run_concat.mp hrun
      have hstack := ih hmiddle
      simp only [List.filterMap_append, List.filterMap_cons, List.filterMap_nil]
      cases hreleases : releases action with
      | some resource =>
          obtain ⟨hacquires, -, hheld⟩ := hdisciplined.release hlast hreleases
          simp only [hacquires, List.append_nil]
          rw [← hstack, hheld, List.append_assoc, List.singleton_append]
      | none =>
          cases hacquires : acquires action with
          | none =>
              simp only [List.append_nil]
              rw [← hstack, hdisciplined.neither hlast hacquires hreleases]
          | some resource =>
              obtain ⟨hacquiring, hheld⟩ := hdisciplined.acquire hlast hacquires
              rw [hdisciplined.released_of_acquiring hmiddle hacquiring, List.nil_append] at hstack
              rw [hdisciplined.released_of_acquiring hmiddle hacquiring, hheld, hstack]
              simp

/-- What was acquired was all held at some time. -/
theorem Disciplined.exists_held
    (hdisciplined : Disciplined step acquires releases held acquiring) {initial after : State}
    (hinitial : held initial = []) {actions : List Action}
    (hrun : run step initial actions = some after) :
    ∃ state, (actions.filterMap acquires).reverse = held state := by
  induction actions using List.reverseRecOn generalizing after with
  | nil => exact ⟨initial, hinitial.symm⟩
  | append_singleton actions action ih =>
      obtain ⟨middle, hmiddle, hlast⟩ := run_concat.mp hrun
      cases hacquires : acquires action with
      | none =>
          obtain ⟨state, hstate⟩ := ih hmiddle
          exact ⟨state, by simpa [List.filterMap_append, hacquires] using hstate⟩
      | some resource =>
          obtain ⟨hacquiring, hheld⟩ := hdisciplined.acquire hlast hacquires
          have hstack := hdisciplined.released_append_held hinitial hmiddle
          rw [hdisciplined.released_of_acquiring hmiddle hacquiring, List.nil_append] at hstack
          exact ⟨after, by simp [List.filterMap_append, hacquires, hheld, hstack]⟩

end Resources

end EdgeDeviceCore.Semantics.TransitionRun
