import EdgeDeviceCore.Agent.Cycles
import EdgeDeviceCore.Semantics.RankedRun

/-!
# Shutdowns come to an end

`evp_agent_shutdown` raises the flag `signalled` and joins the agent thread. From then on the thread
goes down a path without a way back, whichever line it is on: it calls `evp_agent_loop` at most once
more and ends after a bounded number of its actions, whatever other threads do in between. Nothing
on the path waits for another thread.
-/

open EdgeDeviceCore.Platform EdgeDeviceCore.Semantics

namespace EdgeDeviceCore.Agent

/-! ## The way that is left -/

/-- How many actions a thread has left at most, once the flag is raised. -/
def Pc.remaining : Pc → ℕ
  | .setStarted => 21
  | .pthreadSetname => 20
  | .evpAgentSetup => 19
  | .evpAgentPlatformRegister => 18
  | .agentStatusHandler => 17
  | .evpAgentEsfInitProxyCache => 16
  | .evpAgentNotificationsRegister => 15
  | .evpAgentStart => 14
  | .evpAgentFlushWasmNativeSymbols => 13
  | .evpAgentConnect => 12
  | .esfPwrMgrSwWdtStart => 11
  | .setBackdoorContext => 10
  | .esfPwrMgrSwWdtKeepalive => 9
  | .evpAgentLoop => 8
  | .readSignalled => 7
  | .esfPwrMgrSwWdtStop => 6
  | .outDisconnectEvpAgent => 5
  | .outStopEvpAgent => 4
  | .outDeinitProxyCache => 3
  | .outFreeEvpAgent => 2
  | .setRet => 1
  | .exited => 0

/-- How many calls of `evp_agent_loop` it has left. -/
def Pc.remainingLoops (pc : Pc) : ℕ :=
  if 8 ≤ pc.remaining then 1 else 0

theorem remaining_le (pc : Pc) : pc.remaining ≤ 21 := by
  cases pc <;> decide

theorem remaining_eq_zero_iff (pc : Pc) : pc.remaining = 0 ↔ pc = .exited := by
  cases pc <;> decide

/-- The flag is found raised. -/
def ThreadAction.findsRaised : ThreadAction → Prop
  | .readSignalled signalled => signalled = true
  | _ => True

/-- Every action leads on. -/
theorem remaining_perform {thread : AgentThread} {action : ThreadAction}
    (hpc : thread.pc = action.pc) (hraised : action.findsRaised) :
    (thread.perform action).pc.remaining < thread.pc.remaining := by
  rw [hpc]
  cases action with
  | readSignalled signalled =>
      obtain rfl : signalled = true := hraised
      rw [AgentThread.perform, if_pos rfl]
      simp only [ThreadAction.pc, Pc.remaining, Nat.reduceLT]
  | setBackdoorContext =>
      rw [AgentThread.perform, AgentThread.loopTest]
      split_ifs <;> simp only [ThreadAction.pc, Pc.remaining, Nat.reduceLT]
  | esfPwrMgrSwWdtStart wdtErr =>
      rw [AgentThread.perform]
      split_ifs <;> simp only [ThreadAction.pc, Pc.remaining, Nat.reduceLT]
  | pthreadSetname ret | evpAgentPlatformRegister ret | agentStatusHandler ret
  | evpAgentEsfInitProxyCache ret | evpAgentNotificationsRegister ret | evpAgentStart ret
  | evpAgentFlushWasmNativeSymbols ret | evpAgentConnect ret =>
      rw [AgentThread.perform, AgentThread.stage]
      split_ifs <;> simp only [ThreadAction.pc, Pc.remaining, Nat.reduceLT]
  | setStarted | evpAgentSetup ctxt | esfPwrMgrSwWdtKeepalive wdtErr | evpAgentLoop ret
  | esfPwrMgrSwWdtStop wdtErr | evpAgentDisconnect | evpAgentStop | evpAgentEsfDeinitProxyCache
  | evpAgentFree | setRet => exact Nat.lt_succ_self _

/-! ## Actions that are possible -/

namespace Process

variable {wasmRuntimeRegisterNatives : ℕ → Bool} {process after : Process} {index : ℕ}

/-- The action on a line, where nothing fails and the process gives its answers. -/
def actionOn (wasmRuntimeRegisterNatives : ℕ → Bool) (process : Process) (index : ℕ) :
    Pc → ThreadAction
  | .setStarted => .setStarted
  | .pthreadSetname => .pthreadSetname 0
  | .evpAgentSetup => .evpAgentSetup index
  | .evpAgentPlatformRegister => .evpAgentPlatformRegister 0
  | .agentStatusHandler => .agentStatusHandler 0
  | .evpAgentEsfInitProxyCache => .evpAgentEsfInitProxyCache 0
  | .evpAgentNotificationsRegister => .evpAgentNotificationsRegister 0
  | .evpAgentStart => .evpAgentStart 0
  | .evpAgentFlushWasmNativeSymbols =>
      .evpAgentFlushWasmNativeSymbols (process.flush wasmRuntimeRegisterNatives).1
  | .evpAgentConnect => .evpAgentConnect 0
  | .esfPwrMgrSwWdtStart => .esfPwrMgrSwWdtStart .ok
  | .setBackdoorContext => .setBackdoorContext
  | .esfPwrMgrSwWdtKeepalive => .esfPwrMgrSwWdtKeepalive .ok
  | .evpAgentLoop => .evpAgentLoop 0
  | .readSignalled => .readSignalled process.signalled
  | .esfPwrMgrSwWdtStop => .esfPwrMgrSwWdtStop .ok
  | .outDisconnectEvpAgent => .evpAgentDisconnect
  | .outStopEvpAgent => .evpAgentStop
  | .outDeinitProxyCache => .evpAgentEsfDeinitProxyCache
  | .outFreeEvpAgent => .evpAgentFree
  | .setRet | .exited => .setRet

theorem pc_actionOn {pc : Pc} (h : pc ≠ .exited) :
    (process.actionOn wasmRuntimeRegisterNatives index pc).pc = pc := by
  cases pc with
  | exited => exact absurd rfl h
  | _ => rfl

theorem answers_actionOn (pc : Pc) :
    process.answers wasmRuntimeRegisterNatives index
      (process.actionOn wasmRuntimeRegisterNatives index pc) = true := by
  cases pc <;> simp [actionOn, answers]

/-- A thread that has not ended waits for nothing. -/
theorem exists_action [Errno] {thread : AgentThread}
    (hthread : process.agents[index]? = some thread) (hpc : thread.pc ≠ .exited) :
    (process.step wasmRuntimeRegisterNatives
      (.agent index (process.actionOn wasmRuntimeRegisterNatives index thread.pc))).isSome =
        true := by
  have hline : thread.pc = (process.actionOn wasmRuntimeRegisterNatives index thread.pc).pc :=
    (pc_actionOn hpc).symm
  change (process.stepAgent wasmRuntimeRegisterNatives index _).isSome = true
  simp only [stepAgent, hthread, Option.bind_eq_bind, Option.bind_some, AgentThread.step,
    if_pos hline, answers_actionOn, if_true, Option.isSome_some]

/-! ## Once the flag is raised -/

/-- The thread has been started, and the flag is raised. -/
structure Raised (index : ℕ) (process : Process) : Prop where
  signalled : process.signalled = true
  started : index < process.agents.length

def isAction (index : ℕ) : ProcessAction → Bool
  | .agent other _ => other = index
  | _ => false

def isLoop (index : ℕ) : ProcessAction → Bool
  | .agent other (.evpAgentLoop _) => other = index
  | _ => false

/-- The line of a thread. -/
def line (process : Process) (index : ℕ) : Pc :=
  (process.agents[index]?.map AgentThread.pc).getD .exited

theorem line_eq {thread : AgentThread} (h : process.agents[index]? = some thread) :
    process.line index = thread.pc := by
  rw [line, h]
  rfl

/-- No step lowers the flag. -/
theorem signalled_step [Errno] {action : ProcessAction} (h : process.signalled = true)
    (hstep : process.step wasmRuntimeRegisterNatives action = some after) :
    after.signalled = true := by
  cases action with
  | agent other threadAction =>
      obtain ⟨thread, -, -, -, rfl⟩ := stepAgent_eq_some hstep
      exact (effect_signalled thread threadAction).trans h
  | startup created =>
      obtain rfl := Option.some.inj hstep
      cases created <;> exact h
  | signal =>
      obtain rfl := Option.some.inj hstep
      rfl
  | join =>
      obtain rfl := eq_of_join hstep
      exact h
  | call call =>
      obtain rfl := Option.some.inj hstep
      exact h
  | caller caller answers =>
      obtain ⟨call, op, next, -, rfl⟩ := stepCaller_eq_some hstep
      cases op <;> exact h

/-- The thread leaves its line by its own actions only, and then for one further down. -/
theorem line_step [Errno] {action : ProcessAction} (h : Raised index process)
    (hstep : process.step wasmRuntimeRegisterNatives action = some after) :
    (∃ threadAction, action = .agent index threadAction ∧
      threadAction.pc = process.line index ∧
      (after.line index).remaining < (process.line index).remaining) ∨
    isAction index action = false ∧ after.line index = process.line index := by
  by_cases hagent : ∃ other threadAction, action = .agent other threadAction
  · obtain ⟨other, threadAction, rfl⟩ := hagent
    obtain ⟨thread, hthread, hpc, hanswers, rfl⟩ := stepAgent_eq_some hstep
    by_cases hother : other = index
    · subst hother
      have hraised : threadAction.findsRaised := by
        cases threadAction with
        | readSignalled signalled => exact (of_decide_eq_true hanswers).trans h.signalled
        | _ => exact trivial
      refine .inl ⟨threadAction, rfl, hpc.symm.trans (line_eq hthread).symm, ?_⟩
      rw [line_eq hthread, line_eq (List.getElem?_set_self h.started)]
      exact remaining_perform hpc hraised
    · refine .inr ⟨decide_eq_false hother, ?_⟩
      rw [line, line]
      exact congrArg (fun found ↦ (Option.map AgentThread.pc found).getD .exited)
        (List.getElem?_set_ne hother)
  · have hkept : ∀ other threadAction, action ≠ .agent other threadAction :=
      fun other threadAction heq ↦ hagent ⟨other, threadAction, heq⟩
    have hnone : isAction index action = false := by
      cases action with
      | agent other threadAction => exact absurd rfl (hkept other threadAction)
      | _ => rfl
    refine .inr ⟨hnone, ?_⟩
    rcases (agents_of_other hkept hstep).1 with hsame | hadded
    · rw [line, line, hsame]
    · rw [line, line, hadded, List.getElem?_append_left h.started]

theorem Raised.step [Errno] {action : ProcessAction} (h : Raised index process)
    (hstep : process.step wasmRuntimeRegisterNatives action = some after) : Raised index after where
  signalled := signalled_step h.signalled hstep
  started := by
    by_cases hagent : ∃ other threadAction, action = .agent other threadAction
    · obtain ⟨other, threadAction, rfl⟩ := hagent
      obtain ⟨thread, -, -, -, rfl⟩ := stepAgent_eq_some hstep
      exact List.length_set.symm ▸ h.started
    · have hkept : ∀ other threadAction, action ≠ .agent other threadAction :=
        fun other threadAction heq ↦ hagent ⟨other, threadAction, heq⟩
      rcases (agents_of_other hkept hstep).1 with hsame | hadded
      · exact hsame ▸ h.started
      · rw [hadded, List.length_append]
        exact Nat.lt_add_right _ h.started

section Ranks

variable [Errno] (wasmRuntimeRegisterNatives : ℕ → Bool) (index : ℕ)

theorem ranked_actions : TransitionRun.Ranked (step wasmRuntimeRegisterNatives) (Raised index)
    (isAction index) fun process ↦ (process.line index).remaining where
  keeps h hstep := h.step hstep
  decreases h hstep := by
    rcases line_step h hstep with ⟨threadAction, rfl, -, hless⟩ | ⟨hother, hsame⟩
    · have hown : isAction index (.agent index threadAction) = true := decide_eq_true rfl
      rw [if_pos hown, Nat.add_comm]
      exact hless
    · rw [hother, hsame]
      exact (Nat.zero_add _).le

theorem ranked_loops : TransitionRun.Ranked (step wasmRuntimeRegisterNatives) (Raised index)
    (isLoop index) fun process ↦ (process.line index).remainingLoops where
  keeps h hstep := h.step hstep
  decreases {state action after} h hstep := by
    rcases line_step h hstep with ⟨threadAction, rfl, hline, hless⟩ | ⟨hother, hsame⟩
    · unfold Pc.remainingLoops
      rw [← hline] at hless ⊢
      by_cases hloop : isLoop index (.agent index threadAction) = true
      · cases threadAction with
        | evpAgentLoop ret =>
            have hafter : ¬ 8 ≤ (after.line index).remaining := Nat.not_le.mpr hless
            rw [if_pos hloop, if_neg hafter]
            exact (if_pos (Nat.le_refl 8)).ge
        | _ => exact absurd hloop Bool.false_ne_true
      · rw [if_neg hloop, Nat.zero_add]
        split_ifs <;> omega
    · have hnone : isLoop index action = false := by
        cases action with
        | agent other threadAction =>
            cases threadAction with
            | evpAgentLoop ret => exact hother
            | _ => rfl
        | _ => rfl
      rw [hnone, hsame]
      exact (Nat.zero_add _).le

end Ranks

/-- The thread that a shutdown joins is not changed by an agent thread. -/
theorem thread_of_isAction [Errno] {action : ProcessAction} (haction : isAction index action = true)
    (hstep : process.step wasmRuntimeRegisterNatives action = some after) :
    after.thread = process.thread := by
  cases action with
  | agent other threadAction =>
      obtain ⟨thread, -, -, -, rfl⟩ := stepAgent_eq_some hstep
      cases threadAction <;> rfl
  | _ => cases haction

theorem thread_run [Errno] {actions : List ProcessAction}
    (hactions : ∀ action ∈ actions, isAction index action = true)
    (hrun : TransitionRun.run (step wasmRuntimeRegisterNatives) process actions = some after) :
    after.thread = process.thread := by
  induction actions using List.reverseRecOn generalizing after with
  | nil => rw [Option.some.inj hrun]
  | append_singleton actions action ih =>
      obtain ⟨middle, hmiddle, hlast⟩ := TransitionRun.run_concat.mp hrun
      have hearlier := ih (fun other hmem ↦ hactions other (List.mem_append_left _ hmem)) hmiddle
      exact (thread_of_isAction (hactions action (by simp)) hlast).trans hearlier

theorem joinable_of_exited (hthread : process.thread = some index)
    (hstarted : index < process.agents.length) (hline : process.line index = .exited) :
    process.joinable = true := by
  obtain ⟨thread, hfound⟩ : ∃ thread, process.agents[index]? = some thread :=
    ⟨_, List.getElem?_eq_getElem hstarted⟩
  rw [line_eq hfound] at hline
  rw [joinable, hthread, Option.bind_some, hfound]
  exact decide_eq_true hline

end Process

end EdgeDeviceCore.Agent
