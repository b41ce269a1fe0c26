import EdgeDeviceCore.Semantics.TransitionRun

/-!
# The agent thread

`evp_agent_thread` goes through nine stages, a loop and a ladder of labels that undoes the stages.
It is a transition system over the thread's program counter: every action is one call or access of
the thread body together with the answer it gets, so that a list of actions is both a run and the
trace of the run. The answers are arbitrary, and the messages the thread logs are left out.
-/

open EdgeDeviceCore.Semantics

namespace EdgeDeviceCore.Agent

/-- The contexts that `evp_agent_setup` returns, numbered. -/
abbrev Context := ℕ

inductive EsfPwrMgrError where
  | ok
  | failed (error : ℕ)
deriving DecidableEq, Repr

/-- The lines of `evp_agent_thread`, its labels under their own names. -/
inductive Pc where
  | setStarted
  | pthreadSetname
  | evpAgentSetup
  | evpAgentPlatformRegister
  | agentStatusHandler
  | evpAgentEsfInitProxyCache
  | evpAgentNotificationsRegister
  | evpAgentStart
  | evpAgentFlushWasmNativeSymbols
  | evpAgentConnect
  | esfPwrMgrSwWdtStart
  | setBackdoorContext
  | esfPwrMgrSwWdtKeepalive
  | evpAgentLoop
  | readSignalled
  | esfPwrMgrSwWdtStop
  | outDisconnectEvpAgent
  | outStopEvpAgent
  | outDeinitProxyCache
  | outFreeEvpAgent
  | setRet
  | exited
deriving DecidableEq, Repr

/-- What the thread body does, with the answers it gets. -/
inductive ThreadAction where
  | setStarted
  | pthreadSetname (ret : ℤ)
  | evpAgentSetup (ctxt : Context)
  | evpAgentPlatformRegister (ret : ℤ)
  | agentStatusHandler (ret : ℤ)
  | evpAgentEsfInitProxyCache (ret : ℤ)
  | evpAgentNotificationsRegister (ret : ℤ)
  | evpAgentStart (ret : ℤ)
  | evpAgentFlushWasmNativeSymbols (ret : ℤ)
  | evpAgentConnect (ret : ℤ)
  | esfPwrMgrSwWdtStart (wdtErr : EsfPwrMgrError)
  | setBackdoorContext
  | esfPwrMgrSwWdtKeepalive (wdtErr : EsfPwrMgrError)
  | evpAgentLoop (ret : ℤ)
  | readSignalled (signalled : Bool)
  | esfPwrMgrSwWdtStop (wdtErr : EsfPwrMgrError)
  | evpAgentDisconnect
  | evpAgentStop
  | evpAgentEsfDeinitProxyCache
  | evpAgentFree
  | setRet
deriving DecidableEq, Repr

/-- The line that an action is on. -/
def ThreadAction.pc : ThreadAction → Pc
  | .setStarted => .setStarted
  | .pthreadSetname _ => .pthreadSetname
  | .evpAgentSetup _ => .evpAgentSetup
  | .evpAgentPlatformRegister _ => .evpAgentPlatformRegister
  | .agentStatusHandler _ => .agentStatusHandler
  | .evpAgentEsfInitProxyCache _ => .evpAgentEsfInitProxyCache
  | .evpAgentNotificationsRegister _ => .evpAgentNotificationsRegister
  | .evpAgentStart _ => .evpAgentStart
  | .evpAgentFlushWasmNativeSymbols _ => .evpAgentFlushWasmNativeSymbols
  | .evpAgentConnect _ => .evpAgentConnect
  | .esfPwrMgrSwWdtStart _ => .esfPwrMgrSwWdtStart
  | .setBackdoorContext => .setBackdoorContext
  | .esfPwrMgrSwWdtKeepalive _ => .esfPwrMgrSwWdtKeepalive
  | .evpAgentLoop _ => .evpAgentLoop
  | .readSignalled _ => .readSignalled
  | .esfPwrMgrSwWdtStop _ => .esfPwrMgrSwWdtStop
  | .evpAgentDisconnect => .outDisconnectEvpAgent
  | .evpAgentStop => .outStopEvpAgent
  | .evpAgentEsfDeinitProxyCache => .outDeinitProxyCache
  | .evpAgentFree => .outFreeEvpAgent
  | .setRet => .setRet

/-- The locals of the thread body, and the `ret` of `g_evp_agent` that it leaves. -/
structure AgentThread where
  pc : Pc
  ret : ℤ
  ctxt : Option Context
  agentRet : ℤ
deriving DecidableEq, Repr

namespace AgentThread

def initial : AgentThread := ⟨.setStarted, 0, none, 0⟩

/-- `ret = stage(); if (ret) goto label;` -/
def stage (thread : AgentThread) (ret : ℤ) (label next : Pc) : AgentThread :=
  { thread with ret := ret, pc := if ret ≠ 0 then label else next }

/-- The test of `while (ret == 0)`. -/
def loopTest (ret : ℤ) : Pc :=
  if ret = 0 then .esfPwrMgrSwWdtKeepalive else .esfPwrMgrSwWdtStop

def perform (thread : AgentThread) : ThreadAction → AgentThread
  | .setStarted => { thread with pc := .pthreadSetname }
  | .pthreadSetname ret => thread.stage ret .setRet .evpAgentSetup
  | .evpAgentSetup ctxt => { thread with ctxt := some ctxt, pc := .evpAgentPlatformRegister }
  | .evpAgentPlatformRegister ret => thread.stage ret .outFreeEvpAgent .agentStatusHandler
  | .agentStatusHandler ret => thread.stage ret .outFreeEvpAgent .evpAgentEsfInitProxyCache
  | .evpAgentEsfInitProxyCache ret =>
      thread.stage ret .outFreeEvpAgent .evpAgentNotificationsRegister
  | .evpAgentNotificationsRegister ret => thread.stage ret .outDeinitProxyCache .evpAgentStart
  | .evpAgentStart ret => thread.stage ret .outDeinitProxyCache .evpAgentFlushWasmNativeSymbols
  | .evpAgentFlushWasmNativeSymbols ret => thread.stage ret .outStopEvpAgent .evpAgentConnect
  | .evpAgentConnect ret => thread.stage ret .outStopEvpAgent .esfPwrMgrSwWdtStart
  | .esfPwrMgrSwWdtStart wdtErr =>
      { thread with pc := if wdtErr ≠ .ok then .outDisconnectEvpAgent else .setBackdoorContext }
  | .setBackdoorContext => { thread with pc := loopTest thread.ret }
  | .esfPwrMgrSwWdtKeepalive _ => { thread with pc := .evpAgentLoop }
  | .evpAgentLoop ret => { thread with ret := ret, pc := .readSignalled }
  | .readSignalled signalled =>
      { thread with pc := if signalled then .esfPwrMgrSwWdtStop else loopTest thread.ret }
  | .esfPwrMgrSwWdtStop _ => { thread with pc := .outDisconnectEvpAgent }
  | .evpAgentDisconnect => { thread with pc := .outStopEvpAgent }
  | .evpAgentStop => { thread with pc := .outDeinitProxyCache }
  | .evpAgentEsfDeinitProxyCache => { thread with pc := .outFreeEvpAgent }
  | .evpAgentFree => { thread with pc := .setRet }
  | .setRet => { thread with agentRet := thread.ret, pc := .exited }

def step (thread : AgentThread) (action : ThreadAction) : Option AgentThread :=
  if thread.pc = action.pc then some (thread.perform action) else none

theorem step_eq_some {thread after : AgentThread} {action : ThreadAction} :
    thread.step action = some after ↔ thread.pc = action.pc ∧ after = thread.perform action := by
  unfold step
  split <;> simp_all [eq_comm]

end AgentThread

section LastAction

variable {actions : List ThreadAction} {thread : AgentThread}

theorem exists_action_before
    (hrun : TransitionRun.run AgentThread.step AgentThread.initial actions = some thread)
    (hpc : thread.pc ≠ .setStarted) :
    ∃ earlier action before, actions = earlier ++ [action] ∧
      TransitionRun.run AgentThread.step AgentThread.initial earlier = some before ∧
      before.pc = action.pc ∧ thread = before.perform action := by
  rcases List.eq_nil_or_concat' actions with rfl | ⟨earlier, action, rfl⟩
  · obtain rfl := Option.some.inj hrun
    exact absurd rfl hpc
  · obtain ⟨before, hbefore, hstep⟩ := TransitionRun.run_concat.mp hrun
    obtain ⟨haction, hafter⟩ := AgentThread.step_eq_some.mp hstep
    exact ⟨earlier, action, before, rfl, hbefore, haction, hafter⟩

theorem perform_pc_eq_exited {action : ThreadAction} (h : (thread.perform action).pc = .exited) :
    action = .setRet := by
  cases action <;>
    simp only [AgentThread.perform, AgentThread.stage, AgentThread.loopTest, reduceCtorEq]
      at h ⊢ <;>
    split_ifs at h

end LastAction

/-- A run of the thread body from its start to its end. -/
structure CompleteRun where
  actions : List ThreadAction
  thread : AgentThread
  run_eq : TransitionRun.run AgentThread.step AgentThread.initial actions = some thread
  exited : thread.pc = .exited

/-! ## Resources -/

/-- What the stages acquire. -/
inductive Resource where
  | context
  | proxyCache
  | agent
  | connection
  | watchdog
deriving DecidableEq, Repr

/-- What an action acquires, if it succeeds. -/
def ThreadAction.acquires : ThreadAction → Option Resource
  | .evpAgentSetup _ => some .context
  | .evpAgentEsfInitProxyCache ret => if ret = 0 then some .proxyCache else none
  | .evpAgentStart ret => if ret = 0 then some .agent else none
  | .evpAgentConnect ret => if ret = 0 then some .connection else none
  | .esfPwrMgrSwWdtStart wdtErr => if wdtErr = .ok then some .watchdog else none
  | _ => none

def ThreadAction.releases : ThreadAction → Option Resource
  | .esfPwrMgrSwWdtStop _ => some .watchdog
  | .evpAgentDisconnect => some .connection
  | .evpAgentStop => some .agent
  | .evpAgentEsfDeinitProxyCache => some .proxyCache
  | .evpAgentFree => some .context
  | _ => none

/-- What the thread holds at a line, last acquired first. -/
def Pc.held : Pc → List Resource
  | .setStarted | .pthreadSetname | .evpAgentSetup | .setRet | .exited => []
  | .evpAgentPlatformRegister | .agentStatusHandler | .evpAgentEsfInitProxyCache
  | .outFreeEvpAgent => [.context]
  | .evpAgentNotificationsRegister | .evpAgentStart | .outDeinitProxyCache =>
      [.proxyCache, .context]
  | .evpAgentFlushWasmNativeSymbols | .evpAgentConnect | .outStopEvpAgent =>
      [.agent, .proxyCache, .context]
  | .esfPwrMgrSwWdtStart | .outDisconnectEvpAgent => [.connection, .agent, .proxyCache, .context]
  | .setBackdoorContext | .esfPwrMgrSwWdtKeepalive | .evpAgentLoop | .readSignalled
  | .esfPwrMgrSwWdtStop => [.watchdog, .connection, .agent, .proxyCache, .context]

/-- The lines of the stages. -/
def Pc.acquiring : Pc → Bool
  | .setStarted | .pthreadSetname | .evpAgentSetup | .evpAgentPlatformRegister
  | .agentStatusHandler | .evpAgentEsfInitProxyCache | .evpAgentNotificationsRegister
  | .evpAgentStart | .evpAgentFlushWasmNativeSymbols | .evpAgentConnect
  | .esfPwrMgrSwWdtStart => true
  | _ => false

/-- The lines after the loop, which undo the stages. -/
def Pc.undoing : Pc → Bool
  | .esfPwrMgrSwWdtStop | .outDisconnectEvpAgent | .outStopEvpAgent | .outDeinitProxyCache
  | .outFreeEvpAgent | .setRet | .exited => true
  | _ => false

theorem held_nodup (pc : Pc) : pc.held.Nodup := by
  cases pc <;> decide

/-- Each action pushes what it acquires and pops what it releases. -/
theorem held_perform (thread : AgentThread) (action : ThreadAction) :
    action.releases.toList ++ (thread.perform action).pc.held =
      action.acquires.toList ++ action.pc.held := by
  cases action <;>
    simp only [AgentThread.perform, AgentThread.stage, AgentThread.loopTest, ThreadAction.acquires,
      ThreadAction.releases, ThreadAction.pc] <;>
    (repeat' split) <;> simp_all [Pc.held]

theorem acquiring_of_acquires {action : ThreadAction} {resource : Resource}
    (h : action.acquires = some resource) :
    action.pc.acquiring = true ∧ action.releases = none := by
  cases action <;> first | exact ⟨rfl, rfl⟩ | cases h

theorem not_acquiring_of_releases {action : ThreadAction} {resource : Resource}
    (h : action.releases = some resource) (thread : AgentThread) :
    action.acquires = none ∧ (thread.perform action).pc.acquiring = false := by
  cases action <;> first | exact ⟨rfl, rfl⟩ | cases h

/-- The lines of the stages are only reached from each other. -/
theorem acquiring_of_perform {thread : AgentThread} {action : ThreadAction}
    (h : (thread.perform action).pc.acquiring = true) : action.pc.acquiring = true := by
  cases action <;> first | rfl | cases h | skip
  all_goals
    simp only [AgentThread.perform, AgentThread.loopTest] at h
    split_ifs at h <;> cases h

theorem thread_disciplined :
    TransitionRun.Disciplined AgentThread.step ThreadAction.acquires ThreadAction.releases
      (fun thread ↦ thread.pc.held) (fun thread ↦ thread.pc.acquiring = true) where
  acquire {thread action after resource} hstep hacquires := by
    obtain ⟨hpc, rfl⟩ := AgentThread.step_eq_some.mp hstep
    obtain ⟨hacquiring, hreleases⟩ := acquiring_of_acquires hacquires
    have hheld := held_perform thread action
    rw [hacquires, hreleases] at hheld
    rw [hpc]
    exact ⟨hacquiring, hheld⟩
  release {thread action after resource} hstep hreleases := by
    obtain ⟨hpc, rfl⟩ := AgentThread.step_eq_some.mp hstep
    obtain ⟨hacquires, hacquiring⟩ := not_acquiring_of_releases hreleases thread
    have hheld := held_perform thread action
    rw [hacquires, hreleases] at hheld
    rw [hpc]
    exact ⟨hacquires, by rw [hacquiring]; exact Bool.false_ne_true, hheld.symm⟩
  neither {thread action after} hstep hacquires hreleases := by
    obtain ⟨hpc, rfl⟩ := AgentThread.step_eq_some.mp hstep
    have hheld := held_perform thread action
    rw [hacquires, hreleases] at hheld
    rw [hpc]
    exact hheld
  phase {thread action after} hstep hafter := by
    obtain ⟨hpc, rfl⟩ := AgentThread.step_eq_some.mp hstep
    rw [hpc]
    exact acquiring_of_perform hafter

end EdgeDeviceCore.Agent
