import EdgeDeviceCore.Semantics.TransitionRun

/-!
# Runs that come to an end

Where the actions of one kind use up a rank and the others leave it, a run has no more actions of
this kind than the rank allows. While the rank is not used up one of them stays possible.
-/

namespace EdgeDeviceCore.Semantics.TransitionRun

variable {State Action : Type} {step : State → Action → Option State}

/-- Under the invariant, the counted actions use up the rank and no action adds to it. -/
structure Ranked (step : State → Action → Option State) (invariant : State → Prop)
    (counted : Action → Bool) (rank : State → ℕ) : Prop where
  keeps : ∀ {state action after}, invariant state → step state action = some after →
    invariant after
  decreases : ∀ {state action after}, invariant state → step state action = some after →
    (if counted action then 1 else 0) + rank after ≤ rank state

variable {invariant : State → Prop} {counted : Action → Bool} {rank : State → ℕ}
  {initial after : State} {actions : List Action}

theorem Ranked.invariant_run (h : Ranked step invariant counted rank) (hinitial : invariant initial)
    (hrun : run step initial actions = some after) : invariant after :=
  TransitionRun.invariant_run (fun _ state ↦ invariant state) hinitial
    (fun _ _ _ _ hstate hstep ↦ h.keeps hstate hstep) hrun

/-- The counted actions of a run and the rank that is left are no more than the rank at the
start. -/
theorem Ranked.countP_add_rank_le (h : Ranked step invariant counted rank)
    (hinitial : invariant initial) (hrun : run step initial actions = some after) :
    actions.countP counted + rank after ≤ rank initial := by
  induction actions using List.reverseRecOn generalizing after with
  | nil =>
      obtain rfl := Option.some.inj hrun
      rw [List.countP_nil, Nat.zero_add]
  | append_singleton actions action ih =>
      obtain ⟨middle, hmiddle, hlast⟩ := run_concat.mp hrun
      have hdecreases := h.decreases (h.invariant_run hinitial hmiddle) hlast
      calc (actions ++ [action]).countP counted + rank after
          = actions.countP counted + ((if counted action then 1 else 0) + rank after) := by
            rw [List.countP_append, List.countP_singleton, Nat.add_assoc]
        _ ≤ actions.countP counted + rank middle := Nat.add_le_add_left hdecreases _
        _ ≤ rank initial := ih hmiddle

/-- Where a counted action is possible until the rank is used up, counted actions alone use it
up. -/
theorem Ranked.exists_run (h : Ranked step invariant counted rank)
    (henabled : ∀ state, invariant state → rank state ≠ 0 →
      ∃ action, counted action = true ∧ (step state action).isSome = true)
    (hinitial : invariant initial) :
    ∃ actions after, run step initial actions = some after ∧
      (∀ action ∈ actions, counted action = true) ∧ rank after = 0 := by
  induction hrank : rank initial using Nat.strong_induction_on generalizing initial with
  | _ bound ih =>
      by_cases hzero : rank initial = 0
      · exact ⟨[], initial, rfl, fun action hmem ↦ absurd hmem List.not_mem_nil, hzero⟩
      · obtain ⟨action, hcounted, hpossible⟩ := henabled initial hinitial hzero
        obtain ⟨middle, hmiddle⟩ := Option.isSome_iff_exists.mp hpossible
        have hdecreases := h.decreases hinitial hmiddle
        rw [if_pos hcounted] at hdecreases
        obtain ⟨rest, after, hrest, hall, hafter⟩ :=
          ih (rank middle) (by omega) (h.keeps hinitial hmiddle) rfl
        have hfirst : run step initial [action] = some middle := by rwa [run_singleton]
        refine ⟨[action] ++ rest, after, run_append.mpr ⟨middle, hfirst, hrest⟩, ?_, hafter⟩
        intro other hmem
        rcases List.mem_append.mp hmem with hother | hother
        · rwa [List.mem_singleton.mp hother]
        · exact hall other hother

end EdgeDeviceCore.Semantics.TransitionRun
