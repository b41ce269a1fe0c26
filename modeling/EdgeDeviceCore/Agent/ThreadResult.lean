import EdgeDeviceCore.Agent.Thread

/-!
# The result of the agent thread

The thread body carries its result in `ret`, which every stage assigns except the start of the
watchdog: its error is kept in `wdt_err`, and a thread that ends because of it leaves the `0` of
the connect before it. The result tells how the thread ended in exactly the other runs.
-/

open EdgeDeviceCore.Semantics

namespace EdgeDeviceCore.Agent

/-- The action is a stage that fails. -/
def ThreadAction.stageFails : ThreadAction → Bool
  | .pthreadSetname ret | .evpAgentPlatformRegister ret | .agentStatusHandler ret
  | .evpAgentEsfInitProxyCache ret | .evpAgentNotificationsRegister ret | .evpAgentStart ret
  | .evpAgentFlushWasmNativeSymbols ret | .evpAgentConnect ret => ret ≠ 0
  | .esfPwrMgrSwWdtStart wdtErr => wdtErr ≠ .ok
  | _ => false

/-- The action is a call of `evp_agent_loop`. -/
def ThreadAction.isLoop : ThreadAction → Bool
  | .evpAgentLoop _ => true
  | _ => false

/-- The action is a call of `evp_agent_loop` that returns an error. -/
def ThreadAction.loopFails : ThreadAction → Bool
  | .evpAgentLoop ret => ret ≠ 0
  | _ => false

/-- The action finds that a shutdown has been signalled. -/
def ThreadAction.seesShutdown : ThreadAction → Bool
  | .readSignalled signalled => signalled
  | _ => false

/-- The action is a start of the watchdog that fails. -/
def ThreadAction.watchdogFails : ThreadAction → Bool
  | .esfPwrMgrSwWdtStart wdtErr => wdtErr ≠ .ok
  | _ => false

/-- Every stage that ran has succeeded, and the loop has ended because of a shutdown, with no call
that returned an error. -/
def EndedWell (actions : List ThreadAction) : Prop :=
  actions.any ThreadAction.stageFails = false ∧ actions.any ThreadAction.loopFails = false ∧
    actions.any ThreadAction.seesShutdown = true

/-- The result of the thread is `0` exactly when it has ended well, and never when it has not
reached the loop. -/
structure ResultTellsEnd (run : CompleteRun) : Prop where
  zero_iff : run.thread.agentRet = 0 ↔ EndedWell run.actions
  ne_zero : run.actions.any ThreadAction.isLoop = false → run.thread.agentRet ≠ 0

/-! ## What a run has seen -/

/-- What the actions of a run have shown. -/
structure Tally where
  failed : Bool
  watchdogFailed : Bool
  shutdown : Bool
  looped : Bool

def Tally.note (tally : Tally) (action : ThreadAction) : Tally where
  failed := tally.failed || (action.stageFails || action.loopFails)
  watchdogFailed := tally.watchdogFailed || action.watchdogFails
  shutdown := tally.shutdown || action.seesShutdown
  looped := tally.looped || action.isLoop

def tally (actions : List ThreadAction) : Tally where
  failed := actions.any fun action ↦ action.stageFails || action.loopFails
  watchdogFailed := actions.any ThreadAction.watchdogFails
  shutdown := actions.any ThreadAction.seesShutdown
  looped := actions.any ThreadAction.isLoop

theorem tally_concat (actions : List ThreadAction) (action : ThreadAction) :
    tally (actions ++ [action]) = (tally actions).note action := by
  simp [tally, Tally.note]

theorem endedWell_iff (actions : List ThreadAction) :
    EndedWell actions ↔ (tally actions).failed = false ∧ (tally actions).shutdown = true := by
  simp only [EndedWell, tally, List.any_eq_false, Bool.or_eq_true, not_or]
  exact ⟨fun ⟨hstages, hloops, hshutdown⟩ ↦
      ⟨fun action hmem ↦ ⟨hstages action hmem, hloops action hmem⟩, hshutdown⟩,
    fun ⟨hfailed, hshutdown⟩ ↦ ⟨fun action hmem ↦ (hfailed action hmem).1,
      fun action hmem ↦ (hfailed action hmem).2, hshutdown⟩⟩

/-- The parts of the thread body. -/
inductive Phase where
  | stages
  | loop
  | loopCalled
  | undoing

def Pc.phase : Pc → Phase
  | .setBackdoorContext | .esfPwrMgrSwWdtKeepalive | .evpAgentLoop => .loop
  | .readSignalled => .loopCalled
  | .esfPwrMgrSwWdtStop | .outDisconnectEvpAgent | .outStopEvpAgent | .outDeinitProxyCache
  | .outFreeEvpAgent | .setRet | .exited => .undoing
  | _ => .stages

/-- What `ret` tells about the run in each part of the body. -/
def RetTells (tally : Tally) (ret : ℤ) : Phase → Prop
  | .stages => ret = 0 ∧ tally = ⟨false, false, false, false⟩
  | .loop => ret = 0 ∧ tally.failed = false ∧ tally.watchdogFailed = false ∧ tally.shutdown = false
  | .loopCalled => (ret = 0 ↔ tally.failed = false) ∧ tally.watchdogFailed = false ∧
      tally.shutdown = false ∧ tally.looped = true
  | .undoing =>
      -- the watchdog could not be started, or something else has failed, or all went well
      (ret = 0 ∧ tally.failed = true ∧ tally.watchdogFailed = true ∧ tally.looped = false) ∨
        (ret ≠ 0 ∧ tally.failed = true ∧ tally.watchdogFailed = false) ∨
        (ret = 0 ∧ tally.failed = false ∧ tally.watchdogFailed = false ∧ tally.shutdown = true ∧
          tally.looped = true)

section Steps

variable {tally : Tally} {thread : AgentThread}

/-- An action that shows nothing leaves the tally as it is. -/
theorem note_of_silent {action : ThreadAction}
    (h : action.stageFails = false ∧ action.loopFails = false ∧ action.watchdogFails = false ∧
      action.seesShutdown = false ∧ action.isLoop = false) : tally.note action = tally := by
  simp [Tally.note, h]

/-- A stage that fails jumps with its error, and one that succeeds goes on. -/
theorem retTells_stage {action : ThreadAction} {ret : ℤ} {label next : Pc}
    (h : RetTells tally thread.ret .stages)
    (hnote : tally.note action = ⟨tally.failed || decide (ret ≠ 0), tally.watchdogFailed,
      tally.shutdown, tally.looped⟩)
    (hlabel : label.phase = .undoing) (hnext : next.phase = .stages) :
    RetTells (tally.note action) (thread.stage ret label next).ret
      (thread.stage ret label next).pc.phase := by
  obtain ⟨-, rfl⟩ := h
  rw [hnote, AgentThread.stage]
  by_cases hret : ret = 0
  · simp [hret, hnext, RetTells]
  · simp [hret, hlabel, RetTells]

theorem retTells_loopTest (h : RetTells tally thread.ret .loop) :
    RetTells tally thread.ret (AgentThread.loopTest thread.ret).phase := by
  rw [AgentThread.loopTest, if_pos h.1]
  exact h

theorem retTells_perform {action : ThreadAction} (hpc : thread.pc = action.pc)
    (h : RetTells tally thread.ret thread.pc.phase) :
    RetTells (tally.note action) (thread.perform action).ret (thread.perform action).pc.phase := by
  rw [hpc] at h
  cases action with
  | setStarted | evpAgentSetup => 
      obtain ⟨hret, rfl⟩ := h
      exact ⟨hret, rfl⟩
  | pthreadSetname ret | evpAgentPlatformRegister ret | agentStatusHandler ret
  | evpAgentEsfInitProxyCache ret | evpAgentNotificationsRegister ret | evpAgentStart ret
  | evpAgentFlushWasmNativeSymbols ret | evpAgentConnect ret =>
      exact retTells_stage h (by simp [Tally.note, ThreadAction.stageFails, ThreadAction.loopFails,
        ThreadAction.watchdogFails, ThreadAction.seesShutdown, ThreadAction.isLoop]) rfl rfl
  | esfPwrMgrSwWdtStart wdtErr =>
      obtain ⟨hret, rfl⟩ := h
      cases wdtErr with
      | ok => exact ⟨hret, rfl, rfl, rfl⟩
      | failed error => exact Or.inl ⟨hret, rfl, rfl, rfl⟩
  | setBackdoorContext =>
      rw [note_of_silent ⟨rfl, rfl, rfl, rfl, rfl⟩]
      exact retTells_loopTest h
  | esfPwrMgrSwWdtKeepalive wdtErr =>
      rw [note_of_silent ⟨rfl, rfl, rfl, rfl, rfl⟩]
      exact h
  | evpAgentLoop ret =>
      obtain ⟨hret, hfailed, hwatchdog, hshutdown⟩ := h
      refine ⟨?_, by simp [Tally.note, hwatchdog, ThreadAction.watchdogFails],
        by simp [Tally.note, hshutdown, ThreadAction.seesShutdown],
        by simp [Tally.note, ThreadAction.isLoop]⟩
      simp [AgentThread.perform, Tally.note, hfailed, ThreadAction.stageFails,
        ThreadAction.loopFails]
  | readSignalled signalled =>
      obtain ⟨hret, hwatchdog, hshutdown, hlooped⟩ := h
      cases signalled with
      | true =>
          have hnote : tally.note (.readSignalled true) = { tally with shutdown := true } := by
            simp [Tally.note, ThreadAction.stageFails, ThreadAction.loopFails,
              ThreadAction.watchdogFails, ThreadAction.seesShutdown, ThreadAction.isLoop]
          rw [hnote]
          by_cases hzero : thread.ret = 0
          · exact Or.inr (Or.inr ⟨hzero, hret.mp hzero, hwatchdog, rfl, hlooped⟩)
          · exact Or.inr (Or.inl ⟨hzero, by simpa using mt hret.mpr hzero, hwatchdog⟩)
      | false =>
          rw [note_of_silent ⟨rfl, rfl, rfl, rfl, rfl⟩]
          by_cases hzero : thread.ret = 0
          · exact retTells_loopTest ⟨hzero, hret.mp hzero, hwatchdog, hshutdown⟩
          · simp only [AgentThread.perform, AgentThread.loopTest, if_neg hzero, Bool.false_eq_true,
              if_false]
            exact Or.inr (Or.inl ⟨hzero, by simpa using mt hret.mpr hzero, hwatchdog⟩)
  | esfPwrMgrSwWdtStop | evpAgentDisconnect | evpAgentStop | evpAgentEsfDeinitProxyCache
  | evpAgentFree | setRet =>
      rw [note_of_silent ⟨rfl, rfl, rfl, rfl, rfl⟩]
      exact h

end Steps

theorem retTells_run {actions : List ThreadAction} {thread : AgentThread}
    (hrun : TransitionRun.run AgentThread.step AgentThread.initial actions = some thread) :
    RetTells (tally actions) thread.ret thread.pc.phase := by
  have hinitial : RetTells (tally []) AgentThread.initial.ret AgentThread.initial.pc.phase :=
    ⟨rfl, rfl⟩
  refine TransitionRun.invariant_run
    (fun actions thread ↦ RetTells (tally actions) thread.ret thread.pc.phase)
    hinitial ?_ hrun
  intro actions thread action after h hstep
  obtain ⟨hpc, rfl⟩ := AgentThread.step_eq_some.mp hstep
  rw [tally_concat]
  exact retTells_perform hpc h

theorem agentRet_of_exited (run : CompleteRun) : run.thread.agentRet = run.thread.ret := by
  have hexited := run.exited
  obtain ⟨earlier, action, before, -, -, -, hthread⟩ :=
    exists_action_before run.run_eq (by rw [hexited]; decide)
  rw [hthread] at hexited ⊢
  rw [perform_pc_eq_exited hexited]
  rfl

/-- **The result of the agent thread.** It tells how the thread has ended exactly in the runs in
which the watchdog, if its start is reached, is started. -/
theorem resultTellsEnd_iff (run : CompleteRun) :
    ResultTellsEnd run ↔
      ∀ wdtErr, .esfPwrMgrSwWdtStart wdtErr ∈ run.actions → wdtErr = .ok := by
  have htells := retTells_run run.run_eq
  rw [run.exited] at htells
  have hwatchdog : (∀ wdtErr, .esfPwrMgrSwWdtStart wdtErr ∈ run.actions → wdtErr = .ok) ↔
      (tally run.actions).watchdogFailed = false := by
    rw [tally, List.any_eq_false]
    constructor
    · intro h action hmem
      cases action with
      | esfPwrMgrSwWdtStart wdtErr => simp [ThreadAction.watchdogFails, h wdtErr hmem]
      | _ => exact Bool.false_ne_true
    · intro h wdtErr hmem
      simpa [ThreadAction.watchdogFails] using h _ hmem
  rw [hwatchdog]
  constructor
  · intro h
    rcases htells with ⟨hret, -, -, hlooped⟩ | ⟨-, -, hstarted⟩ | ⟨-, -, hstarted, -, -⟩
    · exact absurd ((agentRet_of_exited run).trans hret) (h.ne_zero hlooped)
    · exact hstarted
    · exact hstarted
  · intro hstarted
    rcases htells with
      ⟨-, -, hfailed, -⟩ | ⟨hret, hfailed, -⟩ | ⟨hret, hfailed, -, hshutdown, hlooped⟩
    · rw [hstarted] at hfailed
      cases hfailed
    · refine ⟨?_, fun _ ↦ by rwa [agentRet_of_exited]⟩
      rw [agentRet_of_exited, endedWell_iff, hfailed]
      exact ⟨fun h ↦ absurd h hret, fun h ↦ absurd h.1 (by decide)⟩
    · refine ⟨?_, fun h ↦ absurd (hlooped.symm.trans h) (by decide)⟩
      rw [agentRet_of_exited, endedWell_iff]
      exact ⟨fun _ ↦ ⟨hfailed, hshutdown⟩, fun _ ↦ hret⟩

/-- A run in which the watchdog cannot be started. -/
def watchdogFailure : CompleteRun where
  actions := [.setStarted, .pthreadSetname 0, .evpAgentSetup 0, .evpAgentPlatformRegister 0,
    .agentStatusHandler 0, .evpAgentEsfInitProxyCache 0, .evpAgentNotificationsRegister 0,
    .evpAgentStart 0, .evpAgentFlushWasmNativeSymbols 0, .evpAgentConnect 0,
    .esfPwrMgrSwWdtStart (.failed 1), .evpAgentDisconnect, .evpAgentStop,
    .evpAgentEsfDeinitProxyCache, .evpAgentFree, .setRet]
  thread := ⟨.exited, 0, some 0, 0⟩
  run_eq := by decide
  exited := rfl

/-- The thread ends with result `0` without having reached its loop. -/
theorem watchdogFailure_result_zero : ¬ ResultTellsEnd watchdogFailure :=
  fun h ↦ h.ne_zero (by decide) rfl

end EdgeDeviceCore.Agent
