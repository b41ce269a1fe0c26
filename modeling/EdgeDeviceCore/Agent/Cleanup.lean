import EdgeDeviceCore.Agent.Thread

/-!
# The cleanup of the agent thread

Whatever its stages and its loop answer, an agent thread that has set up its context and ends has
made a well bracketed sequence of calls: each resource acquired is released once, in the reverse
order, the context last of all.
-/

open EdgeDeviceCore.Semantics

namespace EdgeDeviceCore.Agent

/-- The actions that are calls, rather than accesses to `g_evp_agent`. -/
def ThreadAction.isCall : ThreadAction → Bool
  | .setStarted | .readSignalled _ | .setRet => false
  | _ => true

def calls (actions : List ThreadAction) : List ThreadAction := actions.filter ThreadAction.isCall

theorem calls_append (first rest : List ThreadAction) :
    calls (first ++ rest) = calls first ++ calls rest :=
  List.filter_append ..

/-- The calls and accesses of a thread body are well bracketed. -/
structure WellBracketed (actions : List ThreadAction) : Prop where
  /-- The context is freed once, by the last call. -/
  free_last : ∃ before, calls actions = before ++ [.evpAgentFree] ∧ .evpAgentFree ∉ before
  /-- What was acquired is released in the reverse order. -/
  released : actions.filterMap ThreadAction.releases =
    (actions.filterMap ThreadAction.acquires).reverse
  released_once : (actions.filterMap ThreadAction.releases).Nodup
  keepalive_before_loop : ∀ before ret after, calls actions = before ++ .evpAgentLoop ret :: after →
    ∃ earlier wdtErr, before = earlier ++ [.esfPwrMgrSwWdtKeepalive wdtErr]
  no_loop_after_error : ∀ before ret after, actions = before ++ .evpAgentLoop ret :: after →
    ret ≠ 0 → ∀ ret, .evpAgentLoop ret ∉ after
  no_loop_after_signalled : ∀ before after, actions = before ++ .readSignalled true :: after →
    ∀ ret, .evpAgentLoop ret ∉ after

/-- A complete run that gets as far as setting up its context. -/
structure SetUpRun extends CompleteRun where
  ctxt : Context
  setUp : .evpAgentSetup ctxt ∈ actions

section Runs

variable {actions : List ThreadAction} {thread : AgentThread}

theorem acquired_nodup
    (hrun : TransitionRun.run AgentThread.step AgentThread.initial actions = some thread) :
    (actions.filterMap ThreadAction.acquires).Nodup := by
  obtain ⟨state, hstate⟩ := thread_disciplined.exists_held rfl hrun
  rw [← List.nodup_reverse, hstate]
  exact held_nodup state.pc

theorem released_nodup
    (hrun : TransitionRun.run AgentThread.step AgentThread.initial actions = some thread) :
    (actions.filterMap ThreadAction.releases).Nodup := by
  have hnodup := List.nodup_reverse.mpr (acquired_nodup hrun)
  rw [← thread_disciplined.released_append_held rfl hrun] at hnodup
  exact hnodup.of_append_left

/-! ## The last call -/

theorem perform_pc_eq_setRet {action : ThreadAction} (h : (thread.perform action).pc = .setRet) :
    action = .evpAgentFree ∨ ∃ ret, action = .pthreadSetname ret := by
  cases action with
  | evpAgentFree => exact Or.inl rfl
  | pthreadSetname ret => exact Or.inr ⟨ret, rfl⟩
  | _ =>
      simp only [AgentThread.perform, AgentThread.stage, AgentThread.loopTest, reduceCtorEq] at h
      try split_ifs at h

theorem perform_pc_eq_loop {action : ThreadAction}
    (h : (thread.perform action).pc = .evpAgentLoop) :
    ∃ wdtErr, action = .esfPwrMgrSwWdtKeepalive wdtErr := by
  cases action with
  | esfPwrMgrSwWdtKeepalive wdtErr => exact ⟨wdtErr, rfl⟩
  | _ =>
      simp only [AgentThread.perform, AgentThread.stage, AgentThread.loopTest, reduceCtorEq] at h
      try split_ifs at h

/-- After its setup, a run that ends does so with the free of its context. -/
theorem free_last (run : SetUpRun) :
    ∃ before, calls run.actions = before ++ [ThreadAction.evpAgentFree] ∧
      ThreadAction.evpAgentFree ∉ before := by
  obtain ⟨earlier, action, before, hactions, hbefore, hpc, hafter⟩ :=
    exists_action_before run.run_eq (by rw [run.exited]; decide)
  have hexited : (before.perform action).pc = .exited := hafter ▸ run.exited
  obtain rfl := perform_pc_eq_exited hexited
  obtain ⟨first, last, thread, rfl, hthread, hline, rfl⟩ :=
    exists_action_before hbefore (by rw [hpc]; decide)
  rcases perform_pc_eq_setRet hpc with rfl | ⟨ret, rfl⟩
  · have hcalls : calls run.actions = calls first ++ [ThreadAction.evpAgentFree] := by
      rw [hactions, calls_append, calls_append]
      exact List.append_nil _
    refine ⟨calls first, hcalls, fun hmem ↦ ?_⟩
    -- an earlier free would release the context twice
    have hnodup := released_nodup run.run_eq
    have hearlier : Resource.context ∈ first.filterMap ThreadAction.releases :=
      List.mem_filterMap.mpr ⟨.evpAgentFree, List.mem_of_mem_filter hmem, rfl⟩
    rw [hactions, List.filterMap_append, List.filterMap_append, List.append_assoc,
      List.nodup_append] at hnodup
    exact hnodup.2.2 _ hearlier _ (List.mem_cons_self ..) rfl
  · -- a thread whose name cannot be set ends before its setup
    have hsetUp := run.setUp
    have hstack := thread_disciplined.released_append_held rfl hthread
    have hacquired : Resource.context ∈ first.filterMap ThreadAction.acquires := by
      refine List.mem_filterMap.mpr ⟨.evpAgentSetup run.ctxt, ?_, rfl⟩
      rw [hactions] at hsetUp
      simpa using hsetUp
    rw [thread_disciplined.released_of_acquiring hthread (by rw [hline]; rfl), hline,
      List.nil_append] at hstack
    rw [← List.mem_reverse, ← hstack] at hacquired
    cases hacquired

/-! ## The loop -/

theorem keepalive_before_loop (run : CompleteRun) {before after : List ThreadAction} {ret : ℤ}
    (hcalls : calls run.actions = before ++ ThreadAction.evpAgentLoop ret :: after) :
    ∃ earlier wdtErr, before = earlier ++ [ThreadAction.esfPwrMgrSwWdtKeepalive wdtErr] := by
  obtain ⟨first, rest, hactions, rfl, hrest⟩ := List.filter_eq_append_iff.mp hcalls
  obtain ⟨skipped, later, rfl, hskipped, -⟩ := List.filter_eq_cons_iff.mp hrest
  have hrun := run.run_eq
  rw [hactions, ← List.append_assoc] at hrun
  obtain ⟨atLoop, hbefore, hlater⟩ := TransitionRun.run_append.mp hrun
  have hpc : atLoop.pc = .evpAgentLoop := by
    rw [← List.singleton_append] at hlater
    obtain ⟨afterLoop, hloop, -⟩ := TransitionRun.run_append.mp hlater
    rw [TransitionRun.run_singleton] at hloop
    exact (AgentThread.step_eq_some.mp hloop).1
  obtain ⟨earlier, action, thread, hsplit, -, -, rfl⟩ :=
    exists_action_before hbefore (by rw [hpc]; decide)
  obtain ⟨wdtErr, rfl⟩ := perform_pc_eq_loop hpc
  refine ⟨calls earlier, wdtErr, ?_⟩
  calc calls first = calls (first ++ skipped) := by
        rw [calls_append, calls, calls, List.filter_eq_nil_iff.mpr hskipped, List.append_nil]
    _ = calls earlier ++ [.esfPwrMgrSwWdtKeepalive wdtErr] := by
        rw [hsplit, calls_append]
        rfl

/-- The loop is over: it has failed, or its end has been passed. -/
def LoopOver (thread : AgentThread) : Prop :=
  thread.pc = .readSignalled ∧ thread.ret ≠ 0 ∨ thread.pc.undoing = true

theorem loopOver_step {after : AgentThread} {action : ThreadAction} (h : LoopOver thread)
    (hstep : thread.step action = some after) :
    LoopOver after ∧ ∀ ret, action ≠ .evpAgentLoop ret := by
  obtain ⟨hpc, rfl⟩ := AgentThread.step_eq_some.mp hstep
  rcases h with ⟨hline, hret⟩ | hline
  · cases action with
    | readSignalled signalled =>
        refine ⟨Or.inr ?_, fun _ ↦ by simp⟩
        cases signalled <;> simp [AgentThread.perform, AgentThread.loopTest, hret, Pc.undoing]
    | _ => cases hline.symm.trans hpc
  · rw [hpc] at hline
    cases action with
    | esfPwrMgrSwWdtStop | evpAgentDisconnect | evpAgentStop | evpAgentEsfDeinitProxyCache
    | evpAgentFree | setRet => exact ⟨Or.inr rfl, fun _ ↦ by simp⟩
    | _ => cases hline

theorem no_loop_of_loopOver (h : LoopOver thread) {later : List ThreadAction} {after : AgentThread}
    (hrun : TransitionRun.run AgentThread.step thread later = some after) (ret : ℤ) :
    .evpAgentLoop ret ∉ later := by
  have hinvariant : LoopOver after ∧ ∀ ret, .evpAgentLoop ret ∉ later := by
    refine TransitionRun.invariant_run
      (fun later thread ↦ LoopOver thread ∧ ∀ ret, .evpAgentLoop ret ∉ later)
      ⟨h, fun _ ↦ List.not_mem_nil⟩ ?_ hrun
    rintro later thread action after ⟨hover, hnone⟩ hstep
    obtain ⟨hafter, haction⟩ := loopOver_step hover hstep
    refine ⟨hafter, fun ret hmem ↦ ?_⟩
    rcases List.mem_append.mp hmem with h | h
    · exact hnone ret h
    · exact haction ret (List.mem_singleton.mp h).symm
  exact hinvariant.2 ret

theorem no_loop_after (run : CompleteRun) {before after : List ThreadAction} {action : ThreadAction}
    (hactions : run.actions = before ++ action :: after)
    (hover : ∀ thread : AgentThread, thread.pc = action.pc → LoopOver (thread.perform action))
    (ret : ℤ) :
    .evpAgentLoop ret ∉ after := by
  have hrun := run.run_eq
  rw [hactions, ← List.singleton_append, ← List.append_assoc] at hrun
  obtain ⟨middle, hmiddle, hlater⟩ := TransitionRun.run_append.mp hrun
  obtain ⟨thread, -, hstep⟩ := TransitionRun.run_concat.mp hmiddle
  obtain ⟨hpc, rfl⟩ := AgentThread.step_eq_some.mp hstep
  exact no_loop_of_loopOver (hover thread hpc) hlater ret

/-- **The cleanup of the agent thread.** -/
theorem wellBracketed (run : SetUpRun) : WellBracketed run.actions where
  free_last := free_last run
  released := by
    have hstack := thread_disciplined.released_append_held rfl run.run_eq
    rwa [run.exited, Pc.held, List.append_nil] at hstack
  released_once := released_nodup run.run_eq
  keepalive_before_loop _ _ _ hcalls := keepalive_before_loop run.toCompleteRun hcalls
  no_loop_after_error _ _ _ hactions hret :=
    no_loop_after run.toCompleteRun hactions fun _ _ ↦ Or.inl ⟨rfl, hret⟩
  no_loop_after_signalled _ _ hactions :=
    no_loop_after run.toCompleteRun hactions fun _ _ ↦ Or.inr rfl

end Runs

/-- A run with two rounds of the loop, in which a keepalive fails and which a shutdown ends. -/
def twoRounds : SetUpRun where
  actions := [.setStarted, .pthreadSetname 0, .evpAgentSetup 0, .evpAgentPlatformRegister 0,
    .agentStatusHandler 0, .evpAgentEsfInitProxyCache 0, .evpAgentNotificationsRegister 0,
    .evpAgentStart 0, .evpAgentFlushWasmNativeSymbols 0, .evpAgentConnect 0,
    .esfPwrMgrSwWdtStart .ok, .setBackdoorContext,
    .esfPwrMgrSwWdtKeepalive .ok, .evpAgentLoop 0, .readSignalled false,
    .esfPwrMgrSwWdtKeepalive (.failed 1), .evpAgentLoop 5, .readSignalled false,
    .esfPwrMgrSwWdtStop .ok, .evpAgentDisconnect, .evpAgentStop, .evpAgentEsfDeinitProxyCache,
    .evpAgentFree, .setRet]
  thread := ⟨.exited, 5, some 0, 5⟩
  run_eq := by decide
  exited := rfl
  ctxt := 0
  setUp := by decide

theorem wellBracketed_twoRounds : WellBracketed twoRounds.actions := wellBracketed twoRounds

end EdgeDeviceCore.Agent
