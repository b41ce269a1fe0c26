import EdgeDeviceCore.Agent.Api

/-!
# The process around the agent thread

The agent thread, `evp_agent_startup`, `evp_agent_shutdown` and any number of calls of the API run
together, one access at a time. The state is what `evp-agent.c` keeps in its globals, the threads
themselves, and a trace of what happens to native symbols. The code does not keep a second agent
thread from being started, so the state has a list of agent threads.
-/

open EdgeDeviceCore.Platform EdgeDeviceCore.Semantics

namespace EdgeDeviceCore.Agent

/-- A call of the API under way. -/
structure ApiThread where
  call : ApiCall
  rest : Api Bool

/-- What happens to native symbols. -/
inductive SymbolEvent where
  /-- An entry is inserted at the tail of the queue. -/
  | inserted (entry : QueuedEntry)
  /-- The agent thread flushes the queue. -/
  | flushed
  /-- An entry is passed to `wasm_runtime_register_natives`. -/
  | passed (entry : QueuedEntry)
  /-- `evp_agent_connect` is called. -/
  | connected
deriving DecidableEq, Repr

structure Process where
  /-- `g_evp_agent`. -/
  ctxt : Option Context
  signalled : Bool
  started : Bool
  ret : ℤ
  /-- The position of the thread that `g_evp_agent.thread` names. -/
  thread : Option ℕ
  /-- `g_wasm_native_symbols.queue`. -/
  queue : List QueuedEntry
  agents : List AgentThread
  /-- The contexts passed to `evp_agent_free`. -/
  freed : List Context
  callers : List ApiThread
  trace : List SymbolEvent

def Process.initial : Process := ⟨none, false, false, 0, none, [], [], [], [], []⟩

/-- What `malloc` and the library answer to one access of a call. -/
structure Answers where
  malloc : Bool
  status : AgentStatus
  sysClient : Option SysClient
  result : ℤ
deriving DecidableEq, Repr

inductive ProcessAction where
  /-- `evp_agent_startup`, with whether `pthread_create` succeeds. -/
  | startup (created : Bool)
  /-- `evp_agent_shutdown` sets `signalled`. -/
  | signal
  /-- The `pthread_join` of `evp_agent_shutdown` returns. -/
  | join
  | agent (index : ℕ) (action : ThreadAction)
  /-- Some thread calls the API. -/
  | call (call : ApiCall)
  /-- A call makes its next access. -/
  | caller (index : ℕ) (answers : Answers)
deriving DecidableEq, Repr

namespace Process

/-! ## The agent thread in the process -/

/-- How many entries have been passed on so far. -/
def passedCount (process : Process) : ℕ :=
  process.trace.countP fun event ↦ event matches .passed _

def flush (wasmRuntimeRegisterNatives : ℕ → Bool) (process : Process) : ℤ × List QueuedEntry :=
  evpAgentFlushWasmNativeSymbols wasmRuntimeRegisterNatives process.passedCount 0 process.queue

/-- The answers that an action of an agent thread gets from the process. A context is numbered by
the thread that sets it up. -/
def answers (wasmRuntimeRegisterNatives : ℕ → Bool) (process : Process) (index : ℕ) :
    ThreadAction → Bool
  | .evpAgentSetup ctxt => ctxt = index
  | .evpAgentFlushWasmNativeSymbols ret => ret = (process.flush wasmRuntimeRegisterNatives).1
  | .readSignalled signalled => signalled = process.signalled
  | _ => true

/-- What an action of an agent thread does to the globals. -/
def effect (wasmRuntimeRegisterNatives : ℕ → Bool) (process : Process) (thread : AgentThread) :
    ThreadAction → Process
  | .setStarted => { process with started := true }
  | .evpAgentFlushWasmNativeSymbols _ =>
      { process with
        queue := []
        trace := process.trace ++
          .flushed :: (process.flush wasmRuntimeRegisterNatives).2.map .passed }
  | .evpAgentConnect _ => { process with trace := process.trace ++ [.connected] }
  | .setBackdoorContext => { process with ctxt := thread.ctxt }
  | .evpAgentFree => { process with freed := process.freed ++ thread.ctxt.toList }
  | .setRet => { process with ret := thread.ret }
  | _ => process

/-! ## The calls of the API in the process -/

/-- One access of a call, with the reply it gets. -/
def perform (caller : ℕ) (answers : Answers) : (op : ApiOp) → Process → op.Reply × Process
  | .readStarted, process => (process.started, process)
  | .malloc, process => (answers.malloc, process)
  | .insertTail entry, process =>
      ((), { process with
        queue := process.queue ++ [⟨caller, entry⟩]
        trace := process.trace ++ [.inserted ⟨caller, entry⟩] })
  | .getBackdoorContext, process => (process.ctxt, process)
  | .evpAgentGetStatus _, process => (answers.status, process)
  | .evpAgentRegisterSysClient _, process => (answers.sysClient, process)
  | .evpAgentUnregisterSysClient _ _, process => (answers.result, process)
  | .evpAgentUndeployAll _, process => ((), process)
  | .evpAgentEmptyDeploymentHasCompleted _, process => (answers.result, process)

/-! ## Steps -/

def startup (process : Process) : Process :=
  { process with
    agents := process.agents ++ [AgentThread.initial]
    thread := some process.agents.length }

/-- The thread that a shutdown joins has ended. -/
def joinable (process : Process) : Bool :=
  (process.thread.bind fun index ↦ process.agents[index]?).any fun thread ↦ thread.pc = .exited

variable (wasmRuntimeRegisterNatives : ℕ → Bool)

def stepAgent (process : Process) (index : ℕ) (action : ThreadAction) : Option Process := do
  let thread ← process.agents[index]?
  let after ← thread.step action
  if process.answers wasmRuntimeRegisterNatives index action then
    some { process.effect wasmRuntimeRegisterNatives thread action with
      agents := process.agents.set index after }
  else
    none

def stepCaller (process : Process) (index : ℕ) (answers : Answers) : Option Process :=
  match process.callers[index]? with
  | some ⟨call, .issue op next⟩ =>
      let reply := perform index answers op process
      some { reply.2 with callers := process.callers.set index ⟨call, next reply.1⟩ }
  | _ => none

/-! ## What a step can do -/

section Steps

variable {wasmRuntimeRegisterNatives} {process after : Process} {index : ℕ}

theorem stepAgent_eq_some {action : ThreadAction}
    (h : process.stepAgent wasmRuntimeRegisterNatives index action = some after) :
    ∃ thread, process.agents[index]? = some thread ∧ thread.pc = action.pc ∧
      process.answers wasmRuntimeRegisterNatives index action = true ∧
      after = { process.effect wasmRuntimeRegisterNatives thread action with
        agents := process.agents.set index (thread.perform action) } := by
  simp only [stepAgent, Option.bind_eq_bind, Option.bind_eq_some_iff] at h
  obtain ⟨thread, hthread, next, hstep, h⟩ := h
  obtain ⟨hpc, rfl⟩ := AgentThread.step_eq_some.mp hstep
  split at h
  · rename_i hanswers
    exact ⟨thread, hthread, hpc, hanswers, (Option.some.inj h).symm⟩
  · cases h

theorem stepCaller_eq_some {answers : Answers}
    (h : process.stepCaller index answers = some after) :
    ∃ call op next, process.callers[index]? = some ⟨call, .issue op next⟩ ∧
      after = { (perform index answers op process).2 with
        callers := process.callers.set index
          ⟨call, next (perform index answers op process).1⟩ } := by
  unfold stepCaller at h
  split at h
  · rename_i call op next hcaller
    exact ⟨call, op, next, hcaller, (Option.some.inj h).symm⟩
  · cases h

theorem effect_ctxt (thread : AgentThread) (action : ThreadAction) :
    (process.effect wasmRuntimeRegisterNatives thread action).ctxt =
      if action = .setBackdoorContext then thread.ctxt else process.ctxt := by
  cases action <;> rfl

theorem effect_freed (thread : AgentThread) (action : ThreadAction) :
    (process.effect wasmRuntimeRegisterNatives thread action).freed =
      process.freed ++ if action = .evpAgentFree then thread.ctxt.toList else [] := by
  cases action <;> simp [effect]

/-- What the accesses of a call leave alone. -/
theorem perform_frame (process : Process) (index : ℕ) (answers : Answers) (op : ApiOp) :
    (perform index answers op process).2.agents = process.agents ∧
      (perform index answers op process).2.ctxt = process.ctxt ∧
      (perform index answers op process).2.freed = process.freed := by
  cases op <;> exact ⟨rfl, rfl, rfl⟩

end Steps

/-! ## Runs -/

variable [Errno]

def step (process : Process) : ProcessAction → Option Process
  | .startup created => some (if created then process.startup else process)
  | .signal => some { process with signalled := true }
  | .join => if process.joinable then some process else none
  | .agent index action => process.stepAgent wasmRuntimeRegisterNatives index action
  | .call call => some { process with callers := process.callers ++ [⟨call, call.program⟩] }
  | .caller index answers => process.stepCaller index answers

/-- The process after a list of actions, if each of them is possible when its turn comes. -/
def run (actions : List ProcessAction) : Option Process :=
  TransitionRun.run (step wasmRuntimeRegisterNatives) initial actions

section OtherSteps

variable {wasmRuntimeRegisterNatives} {process after : Process}

theorem eq_of_join (h : process.step wasmRuntimeRegisterNatives .join = some after) :
    after = process := by
  simp only [step] at h
  split at h
  · exact (Option.some.inj h).symm
  · cases h

/-- The other actions leave the agent threads and their contexts as they are, or add a thread. -/
theorem agents_of_other {action : ProcessAction}
    (hother : ∀ index threadAction, action ≠ .agent index threadAction)
    (hstep : process.step wasmRuntimeRegisterNatives action = some after) :
    (after.agents = process.agents ∨ after.agents = process.agents ++ [AgentThread.initial]) ∧
      after.ctxt = process.ctxt ∧ after.freed = process.freed := by
  cases action with
  | agent index threadAction => exact absurd rfl (hother index threadAction)
  | startup created =>
      obtain rfl := Option.some.inj hstep
      cases created with
      | true => exact ⟨Or.inr rfl, rfl, rfl⟩
      | false => exact ⟨Or.inl rfl, rfl, rfl⟩
  | signal =>
      obtain rfl := Option.some.inj hstep
      exact ⟨Or.inl rfl, rfl, rfl⟩
  | join =>
      obtain rfl := eq_of_join hstep
      exact ⟨Or.inl rfl, rfl, rfl⟩
  | call call =>
      obtain rfl := Option.some.inj hstep
      exact ⟨Or.inl rfl, rfl, rfl⟩
  | caller caller answers =>
      obtain ⟨call, op, next, -, rfl⟩ := stepCaller_eq_some hstep
      obtain ⟨hagents, hctxt, hfreed⟩ := process.perform_frame caller answers op
      exact ⟨Or.inl hagents, hctxt, hfreed⟩

end OtherSteps

end Process

end EdgeDeviceCore.Agent
