import EdgeDeviceCore.Agent.Backdoor

/-!
# Cycles of startup and shutdown

`evp_agent_shutdown` raises the flag `signalled` and nothing lowers it again. So the loop of an
agent that is started after an earlier shutdown ends at its first test of the flag. Cycles stand
alone in exactly the runs in which no cycle after a shutdown comes to that test, with a loop that
has not failed, before its own shutdown is called.
-/

open EdgeDeviceCore.Platform EdgeDeviceCore.Semantics

namespace EdgeDeviceCore.Agent

namespace Process

/-- The actions after the startup that created an agent thread: its cycle. -/
def sinceStartup : ℕ → List ProcessAction → List ProcessAction
  | _, [] => []
  | 0, action :: rest => if action = .startup true then rest else sinceStartup 0 rest
  | index + 1, action :: rest =>
      if action = .startup true then sinceStartup index rest else sinceStartup (index + 1) rest

/-- The actions before the cycle of an agent thread. -/
def beforeStartup (index : ℕ) (actions : List ProcessAction) : List ProcessAction :=
  actions.take (actions.length - (sinceStartup index actions).length)

/-! ## The cycle of a thread -/

section Cycle

variable {actions : List ProcessAction} {index : ℕ}

theorem sinceStartup_suffix (index : ℕ) (actions : List ProcessAction) :
    sinceStartup index actions <:+ actions := by
  induction actions generalizing index with
  | nil => exact List.nil_suffix
  | cons action rest ih =>
      cases index with
      | zero =>
          rw [sinceStartup]
          split
          · exact List.suffix_cons ..
          · exact (ih 0).trans (List.suffix_cons ..)
      | succ index =>
          rw [sinceStartup]
          split
          · exact (ih index).trans (List.suffix_cons ..)
          · exact (ih (index + 1)).trans (List.suffix_cons ..)

theorem beforeStartup_append_sinceStartup (index : ℕ) (actions : List ProcessAction) :
    beforeStartup index actions ++ sinceStartup index actions = actions := by
  obtain ⟨before, hbefore⟩ := sinceStartup_suffix index actions
  have hlength := congrArg List.length hbefore
  rw [List.length_append] at hlength
  have htake : actions.length - (sinceStartup index actions).length = before.length := by omega
  calc beforeStartup index actions ++ sinceStartup index actions
      = actions.take before.length ++ sinceStartup index actions := by rw [beforeStartup, htake]
    _ = before ++ sinceStartup index actions := by
      congr 1
      conv_lhs => rw [← hbefore]
      exact List.take_left' rfl
    _ = actions := hbefore

theorem sinceStartup_concat (action : ProcessAction)
    (h : index < actions.count (.startup true)) :
    sinceStartup index (actions ++ [action]) = sinceStartup index actions ++ [action] := by
  induction actions generalizing index with
  | nil => exact absurd h (Nat.not_lt_zero index)
  | cons first rest ih =>
      by_cases hstartup : first = .startup true
      · rw [hstartup, List.count_cons_self] at h
        cases index with
        | zero =>
            rw [List.cons_append, sinceStartup, sinceStartup, if_pos hstartup, if_pos hstartup]
        | succ index =>
            rw [List.cons_append, sinceStartup, sinceStartup, if_pos hstartup, if_pos hstartup]
            exact ih (Nat.lt_of_succ_lt_succ h)
      · rw [List.count_cons_of_ne hstartup] at h
        cases index with
        | zero =>
            rw [List.cons_append, sinceStartup, sinceStartup, if_neg hstartup, if_neg hstartup]
            exact ih h
        | succ index =>
            rw [List.cons_append, sinceStartup, sinceStartup, if_neg hstartup, if_neg hstartup]
            exact ih h

end Cycle

/-! ## What a run remembers -/

/-- What the state tells of the run so far. -/
structure Remembers (actions : List ProcessAction) (process : Process) : Prop where
  signalled : process.signalled = true ↔ .signal ∈ actions
  startups : process.agents.length = actions.count (.startup true)
  loop : ∀ index (thread : AgentThread), process.agents[index]? = some thread →
    thread.pc = .readSignalled →
    .agent index (.evpAgentLoop thread.ret) ∈ sinceStartup index actions

section Remembers

variable {wasmRuntimeRegisterNatives : ℕ → Bool} {actions : List ProcessAction}
  {process after : Process}

theorem effect_signalled (thread : AgentThread) (action : ThreadAction) :
    (process.effect wasmRuntimeRegisterNatives thread action).signalled = process.signalled := by
  cases action <;> rfl

/-- A thread comes to the test of the flag from `evp_agent_loop`. -/
theorem loop_of_readSignalled {thread : AgentThread} {action : ThreadAction}
    (h : (thread.perform action).pc = .readSignalled) :
    action = .evpAgentLoop (thread.perform action).ret := by
  cases action <;>
    simp only [AgentThread.perform, AgentThread.stage, AgentThread.loopTest,
      reduceCtorEq] at h ⊢ <;>
    split_ifs at h

/-- Actions that add no thread and leave the loops as they are keep what is remembered. -/
theorem Remembers.of_agents_eq {action : ProcessAction} (h : Remembers actions process)
    (hagents : after.agents = process.agents) (hstartup : action ≠ .startup true)
    (hsignalled : after.signalled = true ↔ process.signalled = true ∨ action = .signal) :
    Remembers (actions ++ [action]) after where
  signalled := by
    rw [hsignalled, h.signalled, List.mem_append, List.mem_singleton, eq_comm (a := action)]
  startups := by
    rw [hagents, h.startups, List.count_append, List.count_singleton,
      beq_eq_false_iff_ne.mpr hstartup]
    rfl
  loop index thread hthread hpc := by
    rw [hagents] at hthread
    have hindex := (List.getElem?_eq_some_iff.mp hthread).1
    rw [sinceStartup_concat _ (h.startups ▸ hindex)]
    exact List.mem_append_left _ (h.loop index thread hthread hpc)

theorem Remembers.stepAgent {index : ℕ} {action : ThreadAction} (h : Remembers actions process)
    (hstep : process.stepAgent wasmRuntimeRegisterNatives index action = some after) :
    Remembers (actions ++ [.agent index action]) after := by
  obtain ⟨thread, hthread, -, -, rfl⟩ := stepAgent_eq_some hstep
  have hindex := (List.getElem?_eq_some_iff.mp hthread).1
  constructor
  · rw [effect_signalled, h.signalled]
    simp
  · rw [List.length_set, h.startups]
    simp
  · intro other another hother hpc
    have hlength : other < process.agents.length := by
      have hother := (List.getElem?_eq_some_iff.mp hother).1
      rwa [List.length_set] at hother
    rw [sinceStartup_concat _ (h.startups ▸ hlength)]
    by_cases heq : other = index
    · subst heq
      rw [List.getElem?_set_self hindex] at hother
      obtain rfl := Option.some.inj hother
      have hloop := loop_of_readSignalled hpc
      exact List.mem_append_right _ (List.mem_singleton.mpr (congrArg _ hloop.symm))
    · rw [List.getElem?_set_ne (Ne.symm heq)] at hother
      exact List.mem_append_left _ (h.loop other another hother hpc)

theorem Remembers.startup (h : Remembers actions process) :
    Remembers (actions ++ [.startup true]) process.startup where
  signalled := by
    have hsame : process.startup.signalled = process.signalled := rfl
    rw [hsame, h.signalled]
    simp
  startups := by
    rw [Process.startup, List.length_append, h.startups]
    simp
  loop index thread hthread hpc := by
    have hold : process.agents[index]? = some thread := by
      rw [Process.startup, List.getElem?_append] at hthread
      split at hthread
      · exact hthread
      · obtain rfl := List.mem_singleton.mp (List.mem_of_getElem? hthread)
        cases hpc
    have hindex := (List.getElem?_eq_some_iff.mp hold).1
    rw [sinceStartup_concat _ (h.startups ▸ hindex)]
    exact List.mem_append_left _ (h.loop index thread hold hpc)

theorem Remembers.step [Errno] {action : ProcessAction} (h : Remembers actions process)
    (hstep : process.step wasmRuntimeRegisterNatives action = some after) :
    Remembers (actions ++ [action]) after := by
  cases action with
  | agent index action => exact h.stepAgent hstep
  | startup created =>
      obtain rfl := Option.some.inj hstep
      cases created with
      | true => exact h.startup
      | false => exact h.of_agents_eq rfl (by decide) (by simp)
  | signal =>
      obtain rfl := Option.some.inj hstep
      exact h.of_agents_eq rfl (by decide) (by simp)
  | join =>
      obtain rfl := eq_of_join hstep
      exact h.of_agents_eq rfl (by decide) (by simp)
  | call call =>
      obtain rfl := Option.some.inj hstep
      exact h.of_agents_eq rfl (by simp) (by simp)
  | caller caller answers =>
      obtain ⟨call, op, next, -, rfl⟩ := stepCaller_eq_some hstep
      have hsignalled : (perform caller answers op process).2.signalled = process.signalled := by
        cases op <;> rfl
      exact h.of_agents_eq (process.perform_frame caller answers op).1 (by simp)
        (by simp [hsignalled])

theorem remembers_run [Errno] (hrun : run wasmRuntimeRegisterNatives actions = some process) :
    Remembers actions process := by
  refine TransitionRun.invariant_run Remembers ?_ (fun _ _ _ _ h hstep ↦ h.step hstep) hrun
  exact ⟨by simp [initial], rfl, fun index thread h ↦ by simp [initial] at h⟩

/-- A loop that has been entered ends at the test of the flag. -/
theorem ends_loop [Errno] {index : ℕ} {thread : AgentThread} {action : ThreadAction}
    (hrun : run wasmRuntimeRegisterNatives actions = some process)
    (hthread : process.agents[index]? = some thread) (hpc : thread.pc = action.pc)
    (hends : (thread.perform action).pc = .esfPwrMgrSwWdtStop) :
    ∃ signalled, action = .readSignalled signalled := by
  cases action with
  | readSignalled signalled => exact ⟨signalled, rfl⟩
  | setBackdoorContext =>
      obtain ⟨threadActions, hreached⟩ :=
        ((contextsBelong_run hrun).agents index thread hthread).reached
      have htells := retTells_run hreached
      rw [hpc] at htells
      simp [AgentThread.perform, AgentThread.loopTest, htells.1] at hends
  | _ =>
      simp only [AgentThread.perform, AgentThread.stage, reduceCtorEq] at hends
      try split_ifs at hends

end Remembers

/-! ## Cycles -/

section Cycles

variable [Errno] (wasmRuntimeRegisterNatives : ℕ → Bool)

/-- After the actions `before`, a thread makes its next step. -/
structure AgentStep (actions before : List ProcessAction) (index : ℕ) (action : ThreadAction)
    (process : Process) (thread : AgentThread) : Prop where
  order : before ++ [.agent index action] <+: actions
  run_eq : run wasmRuntimeRegisterNatives before = some process
  thread_eq : process.agents[index]? = some thread
  enabled : (process.step wasmRuntimeRegisterNatives (.agent index action)).isSome = true

/-- The loop of a cycle only ends because `evp_agent_loop` returned an error in that cycle, or
because the shutdown was called in that cycle. -/
def CyclesStandAlone (actions : List ProcessAction) : Prop :=
  ∀ before index action process thread,
    AgentStep wasmRuntimeRegisterNatives actions before index action process thread →
    (thread.perform action).pc = .esfPwrMgrSwWdtStop →
    (∃ ret, ret ≠ 0 ∧ .agent index (.evpAgentLoop ret) ∈ sinceStartup index before) ∨
      .signal ∈ sinceStartup index before

/-- A cycle that starts after a shutdown only tests the flag once its own shutdown was called, or
once its loop has failed. -/
def SignalledAnew (actions : List ProcessAction) : Prop :=
  ∀ before index signalled process thread,
    AgentStep wasmRuntimeRegisterNatives actions before index (.readSignalled signalled) process
      thread →
    (∀ ret, .agent index (.evpAgentLoop ret) ∈ sinceStartup index before → ret = 0) →
    .signal ∈ beforeStartup index before → .signal ∈ sinceStartup index before

/-- **Cycles of startup and shutdown stand alone** in exactly the runs in which every cycle that
follows a shutdown tests the flag only after its own shutdown, or after its loop has failed. -/
theorem cyclesStandAlone_iff (actions : List ProcessAction) :
    CyclesStandAlone wasmRuntimeRegisterNatives actions ↔
      SignalledAnew wasmRuntimeRegisterNatives actions := by
  constructor
  · intro h before index signalled process thread hstep hloops hbefore
    have hremembers := remembers_run hstep.run_eq
    have hmem : .signal ∈ before := by
      rw [← beforeStartup_append_sinceStartup index before]
      exact List.mem_append_left _ hbefore
    obtain ⟨after, hafter⟩ := Option.isSome_iff_exists.mp hstep.enabled
    obtain ⟨_, _, _, hanswers, _⟩ := stepAgent_eq_some hafter
    have hsignalled : signalled = process.signalled := of_decide_eq_true hanswers
    have hends : (thread.perform (.readSignalled signalled)).pc = .esfPwrMgrSwWdtStop := by
      rw [hsignalled, hremembers.signalled.mpr hmem]
      rfl
    rcases h before index _ process thread hstep hends with ⟨ret, hret, hloop⟩ | hsince
    · exact absurd (hloops ret hloop) hret
    · exact hsince
  · intro h before index action process thread hstep hends
    have hremembers := remembers_run hstep.run_eq
    obtain ⟨after, hafter⟩ := Option.isSome_iff_exists.mp hstep.enabled
    obtain ⟨same, hsame, hpc, hanswers, -⟩ := stepAgent_eq_some hafter
    obtain rfl := Option.some.inj (hstep.thread_eq.symm.trans hsame)
    by_cases hloops : ∀ ret, .agent index (.evpAgentLoop ret) ∈ sinceStartup index before → ret = 0
    · right
      rcases ends_loop hstep.run_eq hsame hpc hends with ⟨signalled, rfl⟩
      have hret := hloops _ (hremembers.loop index thread hsame hpc)
      have hsignalled : signalled = process.signalled := of_decide_eq_true hanswers
      have hraised : signalled = true := by
        by_contra hlowered
        simp [AgentThread.perform, AgentThread.loopTest, hlowered, hret] at hends
      have hmem := hremembers.signalled.mp (hsignalled ▸ hraised)
      rw [← beforeStartup_append_sinceStartup index before, List.mem_append] at hmem
      rcases hmem with hbefore | hsince
      · exact h before index signalled process thread hstep hloops hbefore
      · exact hsince
    · push Not at hloops
      obtain ⟨ret, hloop, hret⟩ := hloops
      exact .inl ⟨ret, hret, hloop⟩

end Cycles

/-- The second agent thread, which serves one round and finds the flag raised. -/
def secondCycleActions : List ProcessAction :=
  .startup true :: List.append
    (servingActions.map fun action ↦
      .agent 1 (match action with
        | .evpAgentSetup _ => .evpAgentSetup 1
        | action => action))
    [.agent 1 (.readSignalled true)]

/-- The action gives no loop a reason to end. -/
def sparesLoops : ProcessAction → Bool
  | .signal => false
  | .agent _ (.evpAgentLoop ret) => ret = 0
  | _ => true

/-- After a shutdown the agent that is started next stops at once. -/
theorem second_cycle_stops :
    ¬ @CyclesStandAlone Errno.linux (fun _ ↦ true)
      (List.append shutdownActions secondCycleActions) := by
  intro h
  have hsome : (@run (fun _ ↦ true) Errno.linux
      (List.append shutdownActions secondCycleActions.dropLast)).map
        (fun process ↦ (process.agents[1]?,
          (@step (fun _ ↦ true) Errno.linux process (.agent 1 (.readSignalled true))).isSome)) =
      some (some ⟨.readSignalled, 0, some 1, 0⟩, true) := by decide
  obtain ⟨process, hrun, hprocess⟩ := Option.map_eq_some_iff.mp hsome
  obtain ⟨hthread, henabled⟩ := Prod.mk.inj hprocess
  have hquiet : ∀ action ∈ sinceStartup 1 (List.append shutdownActions secondCycleActions.dropLast),
      sparesLoops action = true := by decide
  have horder : List.append shutdownActions secondCycleActions.dropLast ++
      [.agent 1 (.readSignalled true)] <+: List.append shutdownActions secondCycleActions :=
    ⟨[], rfl⟩
  rcases h _ 1 (.readSignalled true) process _
    (@AgentStep.mk Errno.linux _ _ _ _ _ _ _ horder hrun hthread henabled) rfl with
    ⟨ret, hret, hloop⟩ | hsignal
  · exact hret (of_decide_eq_true (hquiet _ hloop))
  · exact absurd (hquiet _ hsignal) Bool.false_ne_true

end Process

end EdgeDeviceCore.Agent
