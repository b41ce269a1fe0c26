import EdgeDeviceCore.Agent.Process
import EdgeDeviceCore.Agent.ThreadResult

/-!
# The context behind the backdoor

The agent thread publishes its context before its loop and never withdraws it. From the end of the
loop on, the backdoor hands out a context that is about to be freed, and after the shutdown one
that has been freed. The context handed out is sound in exactly the runs in which the thread whose
context is published neither leaves its loop with an error nor frees the context.
-/

open EdgeDeviceCore.Platform EdgeDeviceCore.Semantics

namespace EdgeDeviceCore.Agent

/-- The loop of the thread has returned an error, or a stage has. -/
def AgentThread.hasFailed (thread : AgentThread) : Prop :=
  (thread.pc = .readSignalled ∨ thread.pc.undoing = true) ∧ thread.ret ≠ 0

namespace Process

/-- A context has been set up by an agent thread. -/
def SetUp (process : Process) (ctxt : Context) : Prop :=
  ∃ thread ∈ process.agents, thread.ctxt = some ctxt

/-- Every agent thread has ended, as the one that a shutdown has joined, or has left its loop with
an error. -/
def Over (process : Process) : Prop :=
  ∀ thread ∈ process.agents, thread.pc = .exited ∨ thread.hasFailed

/-- What the backdoor may rely on in a state: `get_backdoor_context` hands out `ctxt`. -/
structure BackdoorSafe (process : Process) : Prop where
  live : ∀ ctxt, process.ctxt = some ctxt → process.SetUp ctxt ∧ ctxt ∉ process.freed
  not_failed : ∀ ctxt, process.ctxt = some ctxt →
    ∀ thread ∈ process.agents, thread.ctxt = some ctxt → ¬ thread.hasFailed
  null_once_over : process.Over → process.ctxt = none

/-- The action neither frees the published context nor makes the loop on it return an error. -/
def Spares (process : Process) (action : ProcessAction) : Prop :=
  ∀ index threadAction (thread : AgentThread) ctxt, action = .agent index threadAction →
    process.agents[index]? = some thread → thread.ctxt = some ctxt → process.ctxt = some ctxt →
      threadAction ≠ .evpAgentFree ∧ ∀ ret, threadAction = .evpAgentLoop ret → ret = 0

variable [Errno] (wasmRuntimeRegisterNatives : ℕ → Bool)

/-- The backdoor is safe in every state that the actions lead through. -/
def AlwaysBackdoorSafe (actions : List ProcessAction) : Prop :=
  ∀ before after process, actions = before ++ after →
    run wasmRuntimeRegisterNatives before = some process → process.BackdoorSafe

/-- Every step of the actions spares the published context. -/
def AlwaysSpares (actions : List ProcessAction) : Prop :=
  ∀ before action after process next, actions = before ++ action :: after →
    run wasmRuntimeRegisterNatives before = some process →
    process.step wasmRuntimeRegisterNatives action = some next → process.Spares action

end Process

/-! ## Contexts and their threads -/

/-- The lines between the publication of the context and its free. -/
def Pc.serving : Pc → Bool
  | .esfPwrMgrSwWdtKeepalive | .evpAgentLoop | .readSignalled | .esfPwrMgrSwWdtStop
  | .outDisconnectEvpAgent | .outStopEvpAgent | .outDeinitProxyCache | .outFreeEvpAgent => true
  | _ => false

/-- How an agent thread belongs to the process and to its context. -/
structure AgentThread.Belongs (index : ℕ) (thread : AgentThread) : Prop where
  reached : ∃ actions, TransitionRun.run AgentThread.step AgentThread.initial actions = some thread
  numbered : ∀ ctxt, thread.ctxt = some ctxt → ctxt = index
  held : Resource.context ∈ thread.pc.held → thread.ctxt.isSome = true

theorem belongs_initial (index : ℕ) : AgentThread.initial.Belongs index where
  reached := ⟨[], rfl⟩
  numbered _ h := by cases h
  held h := by cases h

theorem belongs_perform {process : Process} {wasmRuntimeRegisterNatives : ℕ → Bool} {index : ℕ}
    {thread : AgentThread} {action : ThreadAction} (h : thread.Belongs index)
    (hpc : thread.pc = action.pc)
    (hanswers : process.answers wasmRuntimeRegisterNatives index action = true) :
    (thread.perform action).Belongs index where
  reached := by
    obtain ⟨actions, hrun⟩ := h.reached
    exact ⟨actions ++ [action], TransitionRun.run_concat.mpr
      ⟨thread, hrun, AgentThread.step_eq_some.mpr ⟨hpc, rfl⟩⟩⟩
  numbered ctxt hctxt := by
    cases action with
    | evpAgentSetup setUp =>
        obtain rfl : setUp = ctxt := Option.some.inj hctxt
        exact of_decide_eq_true hanswers
    | _ => exact h.numbered ctxt hctxt
  held hmem := by
    cases action with
    | evpAgentSetup ctxt => rfl
    | setStarted => cases hmem
    | pthreadSetname ret =>
        simp only [AgentThread.perform, AgentThread.stage] at hmem
        split at hmem <;> cases hmem
    | evpAgentFree => cases hmem
    | setRet => cases hmem
    | _ => exact h.held (by rw [hpc]; simp [ThreadAction.pc, Pc.held])

namespace Process

/-- How the agent threads, their contexts and the freed contexts belong together. -/
structure ContextsBelong (process : Process) : Prop where
  agents : ∀ index (thread : AgentThread), process.agents[index]? = some thread →
    thread.Belongs index
  freed : ∀ ctxt ∈ process.freed, ∃ thread, process.agents[ctxt]? = some thread ∧
    (thread.pc = .setRet ∨ thread.pc = .exited)

/-- The published context, if there is one, is that of a thread that has neither failed nor freed
it. -/
def Served (process : Process) : Prop :=
  ∀ ctxt, process.ctxt = some ctxt → ∃ thread, process.agents[ctxt]? = some thread ∧
    thread.ctxt = some ctxt ∧ thread.pc.serving = true ∧ thread.ret = 0

theorem backdoorSafe_of_served {process : Process} (hbelong : process.ContextsBelong)
    (hserved : process.Served) : process.BackdoorSafe := by
  have hunique (ctxt : Context) (hctxt : process.ctxt = some ctxt) (thread : AgentThread)
      (hmem : thread ∈ process.agents) (hthread : thread.ctxt = some ctxt) :
      ¬ thread.hasFailed ∧ thread.pc ≠ .exited := by
    obtain ⟨serving, hserving, -, hpc, hret⟩ := hserved ctxt hctxt
    obtain ⟨index, hindex⟩ := List.mem_iff_getElem?.mp hmem
    obtain rfl := (hbelong.agents index thread hindex).numbered ctxt hthread
    rw [hserving] at hindex
    obtain rfl := Option.some.inj hindex
    refine ⟨fun hfailed ↦ hfailed.2 hret, fun hexited ↦ ?_⟩
    rw [hexited] at hpc
    cases hpc
  refine ⟨fun ctxt hctxt ↦ ?_, fun ctxt hctxt thread hmem hthread ↦
    (hunique ctxt hctxt thread hmem hthread).1, fun hover ↦ ?_⟩
  · obtain ⟨thread, hindex, hthread, hpc, -⟩ := hserved ctxt hctxt
    refine ⟨⟨thread, List.mem_of_getElem? hindex, hthread⟩, fun hfreed ↦ ?_⟩
    obtain ⟨other, hother, hline⟩ := hbelong.freed ctxt hfreed
    rw [hindex] at hother
    obtain rfl := Option.some.inj hother
    rcases hline with hline | hline <;> rw [hline] at hpc <;> cases hpc
  · by_contra hsome
    obtain ⟨ctxt, hctxt⟩ := Option.ne_none_iff_exists'.mp hsome
    obtain ⟨thread, hindex, hthread, -, -⟩ := hserved ctxt hctxt
    have hmem := List.mem_of_getElem? hindex
    obtain ⟨hnot, hrunning⟩ := hunique ctxt hctxt thread hmem hthread
    rcases hover thread hmem with hexited | hfailed
    · exact hrunning hexited
    · exact hnot hfailed

/-! ## What the steps keep -/

section Steps

variable {wasmRuntimeRegisterNatives : ℕ → Bool} {process after : Process} {index : ℕ}

/-- A thread past its free stays there. -/
theorem ended_perform {thread : AgentThread} {action : ThreadAction} (hpc : thread.pc = action.pc)
    (h : thread.pc = .setRet ∨ thread.pc = .exited) : (thread.perform action).pc = .exited := by
  rw [hpc] at h
  cases action <;> first | rfl | (rcases h with h | h <;> cases h)

theorem contextsBelong_stepAgent {action : ThreadAction} (h : process.ContextsBelong)
    (hstep : process.stepAgent wasmRuntimeRegisterNatives index action = some after) :
    after.ContextsBelong := by
  obtain ⟨thread, hthread, hpc, hanswers, rfl⟩ := stepAgent_eq_some hstep
  have hlength := (List.getElem?_eq_some_iff.mp hthread).1
  have hself : (process.agents.set index (thread.perform action))[index]? =
      some (thread.perform action) := List.getElem?_set_self hlength
  refine ⟨fun other another hother ↦ ?_, fun ctxt hfreed ↦ ?_⟩
  · by_cases hindex : other = index
    · subst hindex
      obtain rfl := Option.some.inj (hself.symm.trans hother)
      exact belongs_perform (h.agents other thread hthread) hpc hanswers
    · rw [List.getElem?_set_ne (Ne.symm hindex)] at hother
      exact h.agents other another hother
  · simp only [effect_freed, List.mem_append] at hfreed
    rcases hfreed with hfreed | hfreed
    · obtain ⟨another, hanother, hended⟩ := h.freed ctxt hfreed
      by_cases hindex : ctxt = index
      · subst hindex
        obtain rfl := Option.some.inj (hthread.symm.trans hanother)
        exact ⟨_, hself, Or.inr (ended_perform hpc hended)⟩
      · exact ⟨another, by rwa [List.getElem?_set_ne (Ne.symm hindex)], hended⟩
    · split at hfreed
      · rename_i hfree
        subst hfree
        obtain rfl := (h.agents index thread hthread).numbered ctxt (Option.mem_toList.mp hfreed)
        exact ⟨_, hself, Or.inl rfl⟩
      · cases hfreed

/-- A serving thread goes on serving until it frees its context, unless its loop fails. -/
theorem serving_perform {thread : AgentThread} {action : ThreadAction} {ctxt : Context}
    (hpc : thread.pc = action.pc) (hown : thread.ctxt = some ctxt)
    (hline : thread.pc.serving = true) (hret : thread.ret = 0) (hfree : action ≠ .evpAgentFree)
    (hloop : ∀ ret, action = .evpAgentLoop ret → ret = 0) :
    (thread.perform action).ctxt = some ctxt ∧ (thread.perform action).pc.serving = true ∧
      (thread.perform action).ret = 0 := by
  rw [hpc] at hline
  cases action with
  | esfPwrMgrSwWdtKeepalive | esfPwrMgrSwWdtStop | evpAgentDisconnect | evpAgentStop
  | evpAgentEsfDeinitProxyCache => exact ⟨hown, rfl, hret⟩
  | evpAgentLoop ret => exact ⟨hown, rfl, hloop ret rfl⟩
  | readSignalled signalled =>
      refine ⟨hown, ?_, hret⟩
      cases signalled <;> simp [AgentThread.perform, AgentThread.loopTest, hret, Pc.serving]
  | evpAgentFree => exact absurd rfl hfree
  | _ => cases hline

/-- A context is only published where it has just been set up and connected. -/
theorem served_stepAgent {action : ThreadAction} (hbelong : process.ContextsBelong)
    (h : process.Served) (hspares : process.Spares (.agent index action))
    (hstep : process.stepAgent wasmRuntimeRegisterNatives index action = some after) :
    after.Served := by
  obtain ⟨thread, hthread, hpc, -, rfl⟩ := stepAgent_eq_some hstep
  have hlength := (List.getElem?_eq_some_iff.mp hthread).1
  have hself : (process.agents.set index (thread.perform action))[index]? =
      some (thread.perform action) := List.getElem?_set_self hlength
  have hbelongs := hbelong.agents index thread hthread
  intro ctxt hctxt
  simp only [effect_ctxt] at hctxt ⊢
  split at hctxt
  · -- the thread publishes its own context, and is about to test its loop
    rename_i hpublish
    subst hpublish
    obtain rfl := hbelongs.numbered ctxt hctxt
    obtain ⟨actions, hrun⟩ := hbelongs.reached
    have htells := retTells_run hrun
    rw [hpc] at htells
    refine ⟨_, hself, hctxt, ?_, htells.1⟩
    simp only [AgentThread.perform, AgentThread.loopTest, if_pos htells.1]
    rfl
  · obtain ⟨serving, hserving, hown, hline, hret⟩ := h ctxt hctxt
    by_cases hindex : ctxt = index
    · subst hindex
      obtain rfl := Option.some.inj (hthread.symm.trans hserving)
      obtain ⟨hfree, hloop⟩ := hspares ctxt action thread ctxt rfl hthread hown hctxt
      exact ⟨_, hself, serving_perform hpc hown hline hret hfree hloop⟩
    · exact ⟨serving, by rwa [List.getElem?_set_ne (Ne.symm hindex)], hown, hline, hret⟩

theorem getElem?_of_other {agents others : List AgentThread}
    (h : others = agents ∨ others = agents ++ [AgentThread.initial]) :
    (∀ (index : ℕ) (thread : AgentThread), agents[index]? = some thread →
        others[index]? = some thread) ∧
      ∀ (index : ℕ) (thread : AgentThread), others[index]? = some thread →
        agents[index]? = some thread ∨ thread = AgentThread.initial := by
  rcases h with rfl | rfl
  · exact ⟨fun _ _ h ↦ h, fun _ _ h ↦ Or.inl h⟩
  · refine ⟨fun index thread h ↦ ?_, fun index thread h ↦ ?_⟩
    · rw [List.getElem?_append_left (List.getElem?_eq_some_iff.mp h).1, h]
    · rw [List.getElem?_append] at h
      split at h
      · exact Or.inl h
      · exact Or.inr (List.mem_singleton.mp (List.mem_of_getElem? h))

theorem contextsBelong_step [Errno] {action : ProcessAction} (h : process.ContextsBelong)
    (hstep : process.step wasmRuntimeRegisterNatives action = some after) :
    after.ContextsBelong := by
  by_cases hagent : ∃ index threadAction, action = .agent index threadAction
  · obtain ⟨index, threadAction, rfl⟩ := hagent
    exact contextsBelong_stepAgent h hstep
  · obtain ⟨hagents, -, hfreed⟩ := agents_of_other
      (fun index threadAction heq ↦ hagent ⟨index, threadAction, heq⟩) hstep
    obtain ⟨hkeep, hnew⟩ := getElem?_of_other hagents
    refine ⟨fun index thread hthread ↦ ?_, fun ctxt hmem ↦ ?_⟩
    · rcases hnew index thread hthread with hold | rfl
      · exact h.agents index thread hold
      · exact belongs_initial index
    · rw [hfreed] at hmem
      obtain ⟨thread, hthread, hended⟩ := h.freed ctxt hmem
      exact ⟨thread, hkeep ctxt thread hthread, hended⟩

theorem served_step [Errno] {action : ProcessAction} (hbelong : process.ContextsBelong)
    (h : process.Served) (hspares : process.Spares action)
    (hstep : process.step wasmRuntimeRegisterNatives action = some after) : after.Served := by
  by_cases hagent : ∃ index threadAction, action = .agent index threadAction
  · obtain ⟨index, threadAction, rfl⟩ := hagent
    exact served_stepAgent hbelong h hspares hstep
  · obtain ⟨hagents, hctxt, -⟩ := agents_of_other
      (fun index threadAction heq ↦ hagent ⟨index, threadAction, heq⟩) hstep
    obtain ⟨hkeep, -⟩ := getElem?_of_other hagents
    intro ctxt hsome
    obtain ⟨thread, hthread, hserving⟩ := h ctxt (hctxt ▸ hsome)
    exact ⟨thread, hkeep ctxt thread hthread, hserving⟩

/-- A step that does not spare the published context leaves an unsafe state. -/
theorem spares_of_backdoorSafe [Errno] {action : ProcessAction}
    (hstep : process.step wasmRuntimeRegisterNatives action = some after)
    (hsafe : after.BackdoorSafe) : process.Spares action := by
  rintro index threadAction thread ctxt rfl hthread hown hctxt
  obtain ⟨same, hsame, hpc, -, rfl⟩ := stepAgent_eq_some hstep
  obtain rfl := Option.some.inj (hthread.symm.trans hsame)
  have hlength := (List.getElem?_eq_some_iff.mp hthread).1
  have hmem :
      thread.perform threadAction ∈ process.agents.set index (thread.perform threadAction) :=
    List.mem_of_getElem? (List.getElem?_set_self hlength)
  refine ⟨?_, ?_⟩
  · rintro rfl
    exact (hsafe.live ctxt hctxt).2 (by simp [effect_freed, hown])
  · rintro ret rfl
    by_contra hret
    exact hsafe.not_failed ctxt hctxt _ hmem hown ⟨Or.inl rfl, hret⟩

end Steps

/-! ## Runs -/

section Runs

variable [Errno] {wasmRuntimeRegisterNatives : ℕ → Bool}

theorem contextsBelong_run {actions : List ProcessAction} {process : Process}
    (hrun : run wasmRuntimeRegisterNatives actions = some process) : process.ContextsBelong := by
  refine TransitionRun.invariant_run (fun _ process ↦ process.ContextsBelong) ?_
    (fun _ _ _ _ h hstep ↦ contextsBelong_step h hstep) hrun
  exact ⟨fun index thread h ↦ by simp [initial] at h, fun ctxt h ↦ by simp [initial] at h⟩

theorem served_run {actions : List ProcessAction}
    (hspares : AlwaysSpares wasmRuntimeRegisterNatives actions) {before after : List ProcessAction}
    (hactions : actions = before ++ after) {process : Process}
    (hrun : run wasmRuntimeRegisterNatives before = some process) : process.Served := by
  induction before using List.reverseRecOn generalizing after process with
  | nil =>
      obtain rfl := Option.some.inj hrun
      exact fun ctxt h ↦ by cases h
  | append_singleton before action ih =>
      obtain ⟨middle, hmiddle, hstep⟩ := TransitionRun.run_concat.mp hrun
      rw [List.append_assoc, List.singleton_append] at hactions
      exact served_step (contextsBelong_run hmiddle) (ih hactions hmiddle)
        (hspares before action after middle process hactions hmiddle hstep) hstep

end Runs

/-- **The context behind the backdoor.** Along a list of actions, every state is safe for the
backdoor exactly when every step spares the published context. -/
theorem alwaysBackdoorSafe_iff [Errno] (wasmRuntimeRegisterNatives : ℕ → Bool)
    (actions : List ProcessAction) :
    AlwaysBackdoorSafe wasmRuntimeRegisterNatives actions ↔
      AlwaysSpares wasmRuntimeRegisterNatives actions := by
  constructor
  · intro hsafe before action after process next hactions hrun hstep
    refine spares_of_backdoorSafe hstep
      (hsafe (before ++ [action]) after next ?_
        (TransitionRun.run_concat.mpr ⟨process, hrun, hstep⟩))
    rw [hactions, List.append_assoc, List.singleton_append]
  · intro hspares before after process hactions hrun
    exact backdoorSafe_of_served (contextsBelong_run hrun) (served_run hspares hactions hrun)

/-- An agent thread that serves one round of its loop. -/
def servingActions : List ThreadAction :=
  [.setStarted, .pthreadSetname 0, .evpAgentSetup 0, .evpAgentPlatformRegister 0,
    .agentStatusHandler 0, .evpAgentEsfInitProxyCache 0, .evpAgentNotificationsRegister 0,
    .evpAgentStart 0, .evpAgentFlushWasmNativeSymbols 0, .evpAgentConnect 0,
    .esfPwrMgrSwWdtStart .ok, .setBackdoorContext, .esfPwrMgrSwWdtKeepalive .ok, .evpAgentLoop 0]

/-- The end of a thread that has been signalled. -/
def endingActions : List ThreadAction :=
  [.readSignalled true, .esfPwrMgrSwWdtStop .ok, .evpAgentDisconnect, .evpAgentStop,
    .evpAgentEsfDeinitProxyCache, .evpAgentFree, .setRet]

/-- The agent thread is started, serves and is shut down. -/
def shutdownActions : List ProcessAction :=
  .startup true :: List.append (servingActions.map (.agent 0))
    (.signal :: List.append (endingActions.map (.agent 0)) [.join])

/-- After the shutdown the backdoor hands out the freed context. -/
theorem freed_context_handed_out :
    ¬ @AlwaysBackdoorSafe Errno.linux (fun _ ↦ true) shutdownActions := by
  intro h
  have hsome : (@run (fun _ ↦ true) Errno.linux shutdownActions).map
      (fun process ↦ (process.ctxt, process.freed)) = some (some 0, [0]) := by decide
  obtain ⟨process, hrun, hprocess⟩ := Option.map_eq_some_iff.mp hsome
  obtain ⟨hctxt, hfreed⟩ := Prod.mk.inj hprocess
  have hsafe := h shutdownActions [] process (List.append_nil _).symm hrun
  exact (hsafe.live 0 hctxt).2 (by rw [hfreed]; decide)

end Process

end EdgeDeviceCore.Agent
