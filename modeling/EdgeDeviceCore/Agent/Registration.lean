import EdgeDeviceCore.Agent.Process
import EdgeDeviceCore.Agent.ThreadResult

/-!
# Accepted native symbols

`EVP_wasm_runtime_register_natives` decides by the flag `started`, which it reads before it queues
its entry, and the agent thread flushes the queue once. A call that reads the flag in time but
inserts its entry after the flush still returns `true`: its symbols are never passed on. The calls
that insert before the flush lose nothing. The flush is one step here, as if its walk over the
queue were made under the lock of the queue.
-/

open EdgeDeviceCore.Platform EdgeDeviceCore.Semantics

namespace EdgeDeviceCore.Agent

/-- The entry that a call asks to register. -/
def ApiCall.registration? : ApiCall → Option NativeSymbolEntry
  | .registerNatives (some moduleName) (some nativeSymbols) nNativeSymbols =>
      some ⟨moduleName, nativeSymbols, nNativeSymbols⟩
  | _ => none

/-- The action is a stage of the agent thread that fails. -/
def ProcessAction.startupFails : ProcessAction → Bool
  | .agent _ action => action.stageFails
  | _ => false

/-- A run with at most one agent thread. -/
structure SingleAgentRun [Errno] (wasmRuntimeRegisterNatives : ℕ → Bool) where
  actions : List ProcessAction
  final : Process
  run_eq : Process.run wasmRuntimeRegisterNatives actions = some final
  single : final.agents.length ≤ 1

namespace SingleAgentRun

variable [Errno] {wasmRuntimeRegisterNatives : ℕ → Bool}

def StartupFails (run : SingleAgentRun wasmRuntimeRegisterNatives) : Prop :=
  run.actions.any ProcessAction.startupFails = true

/-- Unless the startup fails, every call that has returned `true` has had its entry passed on
exactly once by the time `evp_agent_connect` is called. -/
def NoneLost (run : SingleAgentRun wasmRuntimeRegisterNatives) : Prop :=
  ¬ run.StartupFails → ∀ before after, run.final.trace = before ++ .connected :: after →
    ∀ caller call, run.final.callers[caller]? = some ⟨call, .done true⟩ →
      ∃ entry, call.registration? = some entry ∧ before.count (.passed ⟨caller, entry⟩) = 1

/-- Unless the startup fails or has not come as far as `evp_agent_connect`, no entry is inserted
after the flush. -/
def NoLateInsert (run : SingleAgentRun wasmRuntimeRegisterNatives) : Prop :=
  ¬ run.StartupFails → .connected ∈ run.final.trace →
    ∀ before after, run.final.trace = before ++ .flushed :: after →
      ∀ entry, .inserted entry ∉ after

end SingleAgentRun

/-! ## What a call inserts -/

/-- What an access of a call inserts. -/
def ApiOp.inserts (caller : ℕ) : ApiOp → List QueuedEntry
  | .insertTail entry => [⟨caller, entry⟩]
  | _ => []

/-- A call under way, with what it has inserted so far: it inserts its entry as its last access,
and then returns `true`, or inserts nothing. -/
def Registers (caller : ℕ) (entry : Option NativeSymbolEntry) : Api Bool → List QueuedEntry → Prop
  | .done true, inserted => ∃ accepted, entry = some accepted ∧ inserted = [⟨caller, accepted⟩]
  | .done false, inserted => inserted = []
  | .issue op next, inserted =>
      inserted = [] ∧ ∀ reply, Registers caller entry (next reply) (op.inserts caller)

theorem registers_add [Errno] (caller : ℕ) (moduleName : Option String)
    (nativeSymbols : Option ℕ) (nNativeSymbols : BitVec 32) :
    Registers caller (ApiCall.registerNatives moduleName nativeSymbols nNativeSymbols).registration?
      (evpAgentWasmNativeSymbolAdd moduleName nativeSymbols nNativeSymbols >>=
        fun ret ↦ return decide (ret = 0)) [] := by
  have hrefused (entry : Option NativeSymbolEntry) (name : ErrnoName) :
      Registers caller entry (.done (decide (-Errno.value name = 0))) [] := by
    rw [decide_eq_false (Errno.neg_value_ne_zero name)]
    rfl
  cases moduleName with
  | none => exact hrefused _ _
  | some moduleName =>
      cases nativeSymbols with
      | none => exact hrefused _ _
      | some nativeSymbols =>
          simp only [evpAgentWasmNativeSymbolAdd]
          split
          · exact hrefused _ _
          · refine ⟨rfl, fun allocated ↦ ?_⟩
            cases allocated with
            | true => exact ⟨rfl, fun _ ↦ ⟨_, rfl, rfl⟩⟩
            | false => exact hrefused _ _

theorem registers_program [Errno] (caller : ℕ) (call : ApiCall) :
    Registers caller call.registration? call.program [] := by
  cases call with
  | getAgentStatus | registerSysClient | unregisterSysClient =>
      refine ⟨rfl, fun ctxt ↦ ?_⟩
      cases ctxt with
      | none => rfl
      | some ctxt => exact ⟨rfl, fun _ ↦ rfl⟩
  | undeployModules =>
      refine ⟨rfl, fun ctxt ↦ ?_⟩
      cases ctxt with
      | none => rfl
      | some ctxt =>
          refine ⟨rfl, fun status ↦ ?_⟩
          cases status with
          | init => rfl
          | other status => exact ⟨rfl, fun _ ↦ ⟨rfl, fun _ ↦ ⟨rfl, fun _ ↦ rfl⟩⟩⟩
  | registerNatives moduleName nativeSymbols nNativeSymbols =>
      refine ⟨rfl, fun started ↦ ?_⟩
      cases started with
      | true => rfl
      | false => exact registers_add caller moduleName nativeSymbols nNativeSymbols

/-- Only a call that has returned `true` has inserted an entry. -/
theorem done_of_registers {caller : ℕ} {entry : Option NativeSymbolEntry} {rest : Api Bool}
    {inserted : List QueuedEntry} (h : Registers caller entry rest inserted)
    (hinserted : inserted ≠ []) : rest = .done true := by
  cases rest with
  | done accepted =>
      cases accepted with
      | true => rfl
      | false => exact absurd h hinserted
  | issue op next => exact absurd h.1 hinserted

/-! ## The trace -/

/-- The entries inserted, in order. -/
def insertions (trace : List SymbolEvent) : List QueuedEntry :=
  trace.filterMap fun
    | .inserted entry => some entry
    | _ => none

@[simp]
theorem insertions_nil : insertions [] = [] := rfl

@[simp]
theorem insertions_append (first rest : List SymbolEvent) :
    insertions (first ++ rest) = insertions first ++ insertions rest :=
  List.filterMap_append ..

@[simp]
theorem insertions_inserted (entries : List QueuedEntry) :
    insertions (entries.map .inserted) = entries := by
  rw [insertions, List.filterMap_map]
  exact List.filterMap_some

@[simp]
theorem insertions_passed (entries : List QueuedEntry) :
    insertions (entries.map .passed) = [] := by
  rw [insertions, List.filterMap_map]
  exact List.filterMap_none entries

@[simp]
theorem insertions_flushed (rest : List SymbolEvent) :
    insertions (.flushed :: rest) = insertions rest := rfl

@[simp]
theorem insertions_connected (rest : List SymbolEvent) :
    insertions (.connected :: rest) = insertions rest := rfl

/-- The entries that a call has inserted. -/
def insertionsBy (caller : ℕ) (trace : List SymbolEvent) : List QueuedEntry :=
  (insertions trace).filter fun entry ↦ entry.caller = caller

theorem mem_insertionsBy {entry : QueuedEntry} {trace : List SymbolEvent} :
    entry ∈ insertionsBy entry.caller trace ↔ entry ∈ insertions trace := by
  simp [insertionsBy]

theorem count_insertionsBy (entry : QueuedEntry) (trace : List SymbolEvent) :
    (insertionsBy entry.caller trace).count entry = (insertions trace).count entry :=
  List.count_filter (by simp)

/-- Where the agent thread has brought the symbols, if none of its stages has failed. -/
inductive SymbolPhase where
  | waiting
  | flushed
  | connected

def Pc.symbolPhase : Pc → SymbolPhase
  | .setStarted | .pthreadSetname | .evpAgentSetup | .evpAgentPlatformRegister
  | .agentStatusHandler | .evpAgentEsfInitProxyCache | .evpAgentNotificationsRegister
  | .evpAgentStart | .evpAgentFlushWasmNativeSymbols => .waiting
  | .evpAgentConnect => .flushed
  | _ => .connected

/-- The trace until `evp_agent_connect`: the `early` entries are inserted, flushed and passed on,
and the `late` ones are inserted. -/
def traceToConnect (early late : List QueuedEntry) : List SymbolEvent :=
  early.map .inserted ++ .flushed :: (early.map .passed ++ late.map .inserted)

/-- What the trace and the queue have in common in each phase. The queue is what has been inserted
and not flushed. -/
def TraceShape (trace : List SymbolEvent) (queue : List QueuedEntry) : SymbolPhase → Prop
  | .waiting => trace = queue.map .inserted
  | .flushed => ∃ early, trace = traceToConnect early queue
  | .connected => ∃ early late later, queue = late ++ later ∧
      trace = traceToConnect early late ++ .connected :: later.map .inserted

theorem traceShape_insert {trace : List SymbolEvent} {queue : List QueuedEntry}
    {phase : SymbolPhase} (h : TraceShape trace queue phase) (entry : QueuedEntry) :
    TraceShape (trace ++ [SymbolEvent.inserted entry]) (queue ++ [entry]) phase := by
  cases phase with
  | waiting =>
      obtain rfl : trace = queue.map .inserted := h
      simp [TraceShape]
  | flushed =>
      obtain ⟨early, rfl⟩ := h
      exact ⟨early, by simp [traceToConnect]⟩
  | connected =>
      obtain ⟨early, late, later, rfl, rfl⟩ := h
      exact ⟨early, late, later ++ [entry], by simp, by simp⟩

section Shape

variable {early late later : List QueuedEntry} {before after : List SymbolEvent}

theorem insertions_traceToConnect (early late : List QueuedEntry) :
    insertions (traceToConnect early late) = early ++ late := by
  simp [traceToConnect]

/-- `evp_agent_connect` is called once. -/
theorem eq_of_connected
    (h : traceToConnect early late ++ SymbolEvent.connected :: later.map .inserted =
      before ++ SymbolEvent.connected :: after) : before = traceToConnect early late := by
  have hnot (entries : List QueuedEntry) : SymbolEvent.connected ∉ entries.map .inserted := by
    simp
  exact ((List.append_cons_inj_of_notMem (by simp [traceToConnect]) (hnot later)).mp h).1.symm

/-- What follows the flush, which is made once. -/
theorem eq_of_flushed
    (h : traceToConnect early late ++ SymbolEvent.connected :: later.map .inserted =
      before ++ SymbolEvent.flushed :: after) :
    after = early.map SymbolEvent.passed ++ late.map SymbolEvent.inserted ++
      SymbolEvent.connected :: later.map .inserted := by
  rw [traceToConnect, List.append_assoc, List.cons_append] at h
  exact ((List.append_cons_inj_of_notMem (by simp) (by simp)).mp h).2.2.symm

theorem count_passed_traceToConnect (entry : QueuedEntry) :
    (traceToConnect early late).count (.passed entry) = early.count entry := by
  have hpassed : (early.map SymbolEvent.passed).count (.passed entry) = early.count entry :=
    List.count_map_of_injective early _ (fun _ _ ↦ SymbolEvent.passed.inj) entry
  have hinserted (entries : List QueuedEntry) :
      (entries.map SymbolEvent.inserted).count (.passed entry) = 0 :=
    List.count_eq_zero.mpr (by simp)
  simp [traceToConnect, hpassed, hinserted]

end Shape

/-! ## What the steps keep -/

/-- The actions of the thread body that do something to the queue or the trace. -/
def ThreadAction.movesSymbols : ThreadAction → Bool
  | .evpAgentFlushWasmNativeSymbols _ | .evpAgentConnect _ => true
  | _ => false

theorem symbolPhase_perform {thread : AgentThread} {action : ThreadAction}
    (hpc : thread.pc = action.pc) (hfails : action.stageFails = false)
    (hmoves : action.movesSymbols = false) :
    (thread.perform action).pc.symbolPhase = thread.pc.symbolPhase := by
  rw [hpc]
  cases action with
  | evpAgentFlushWasmNativeSymbols ret | evpAgentConnect ret => cases hmoves
  | setBackdoorContext | readSignalled signalled =>
      simp only [AgentThread.perform, AgentThread.loopTest]
      split_ifs <;> rfl
  | pthreadSetname ret | evpAgentPlatformRegister ret | agentStatusHandler ret
  | evpAgentEsfInitProxyCache ret | evpAgentNotificationsRegister ret | evpAgentStart ret =>
      obtain rfl : ret = 0 := by simpa [ThreadAction.stageFails] using hfails
      rfl
  | esfPwrMgrSwWdtStart wdtErr =>
      obtain rfl : wdtErr = .ok := by simpa [ThreadAction.stageFails] using hfails
      rfl
  | _ => rfl

namespace Process

/-- Each call under way has inserted what it should, and nobody else has inserted anything. -/
structure CallersRegister (process : Process) : Prop where
  registers : ∀ caller call rest, process.callers[caller]? = some ⟨call, rest⟩ →
    Registers caller call.registration? rest (insertionsBy caller process.trace)
  no_other : ∀ caller, process.callers[caller]? = none → insertionsBy caller process.trace = []

def symbolPhase (process : Process) : SymbolPhase :=
  match process.agents with
  | thread :: _ => thread.pc.symbolPhase
  | [] => .waiting

section Steps

variable {wasmRuntimeRegisterNatives : ℕ → Bool} {process after : Process} {index : ℕ}

theorem perform_symbols (process : Process) (index : ℕ) (answers : Answers) (op : ApiOp) :
    (perform index answers op process).2.trace =
        process.trace ++ (op.inserts index).map .inserted ∧
      (perform index answers op process).2.queue = process.queue ++ op.inserts index := by
  cases op <;> simp [perform, ApiOp.inserts]

theorem effect_symbols (process : Process) (wasmRuntimeRegisterNatives : ℕ → Bool)
    (thread : AgentThread) {action : ThreadAction}
    (hmoves : action.movesSymbols = false) :
    (process.effect wasmRuntimeRegisterNatives thread action).trace = process.trace ∧
      (process.effect wasmRuntimeRegisterNatives thread action).queue = process.queue := by
  cases action <;> first | exact ⟨rfl, rfl⟩ | cases hmoves

/-- The agent thread inserts nothing, and leaves the calls alone. -/
theorem effect_insertions (process : Process) (wasmRuntimeRegisterNatives : ℕ → Bool)
    (thread : AgentThread) (action : ThreadAction) :
    insertions (process.effect wasmRuntimeRegisterNatives thread action).trace =
        insertions process.trace ∧
      (process.effect wasmRuntimeRegisterNatives thread action).callers = process.callers := by
  cases action with
  | evpAgentFlushWasmNativeSymbols ret | evpAgentConnect ret =>
      exact ⟨by simp [effect, insertions_append], rfl⟩
  | _ => exact ⟨rfl, rfl⟩

theorem callersRegister_of_eq (h : process.CallersRegister)
    (hcallers : after.callers = process.callers)
    (htrace : insertions after.trace = insertions process.trace) : after.CallersRegister := by
  have hby (caller : ℕ) :
      insertionsBy caller after.trace = insertionsBy caller process.trace := by
    rw [insertionsBy, htrace, insertionsBy]
  refine ⟨fun caller call rest hcaller ↦ ?_, fun caller hnone ↦ ?_⟩
  · rw [hby]
    exact h.registers caller call rest (hcallers ▸ hcaller)
  · rw [hby]
    exact h.no_other caller (hcallers ▸ hnone)

theorem callersRegister_call [Errno] (h : process.CallersRegister) (call : ApiCall) :
    CallersRegister { process with callers := process.callers ++ [⟨call, call.program⟩] } := by
  refine ⟨fun caller other rest hcaller ↦ ?_, fun caller hnone ↦ ?_⟩
  · simp only [List.getElem?_append] at hcaller
    split at hcaller
    · exact h.registers caller other rest hcaller
    · rename_i hlength
      -- the new call has not inserted anything
      obtain ⟨rfl, rfl⟩ := ApiThread.mk.inj (List.mem_singleton.mp (List.mem_of_getElem? hcaller))
      rw [h.no_other caller (List.getElem?_eq_none (Nat.le_of_not_lt hlength))]
      exact registers_program caller other
  · simp only [List.getElem?_eq_none_iff, List.length_append, List.length_singleton] at hnone
    exact h.no_other caller (List.getElem?_eq_none (by omega))

theorem callersRegister_stepCaller {answers : Answers} (h : process.CallersRegister)
    (hstep : process.stepCaller index answers = some after) : after.CallersRegister := by
  obtain ⟨call, op, next, hcaller, rfl⟩ := stepCaller_eq_some hstep
  have hlength := (List.getElem?_eq_some_iff.mp hcaller).1
  have htrace := (process.perform_symbols index answers op).1
  obtain ⟨hnothing, hnext⟩ := h.registers index call _ hcaller
  have hby (caller : ℕ) :
      insertionsBy caller (perform index answers op process).2.trace =
        insertionsBy caller process.trace ++
          (op.inserts index).filter fun entry ↦ entry.caller = caller := by
    rw [htrace, insertionsBy, insertions_append, insertions_inserted, List.filter_append,
      insertionsBy]
  have hself : (op.inserts index).filter (fun entry ↦ entry.caller = index) =
      op.inserts index := by
    cases op <;> simp [ApiOp.inserts]
  have hother (caller : ℕ) (hne : index ≠ caller) :
      (op.inserts index).filter (fun entry ↦ entry.caller = caller) = [] := by
    cases op <;> simp [ApiOp.inserts, hne]
  refine ⟨fun caller other rest hrest ↦ ?_, fun caller hnone ↦ ?_⟩
  · by_cases hindex : index = caller
    · subst hindex
      rw [List.getElem?_set_self hlength] at hrest
      obtain ⟨rfl, rfl⟩ := ApiThread.mk.inj (Option.some.inj hrest)
      simp only [hby, hnothing, hself, List.nil_append]
      exact hnext _
    · rw [List.getElem?_set_ne hindex] at hrest
      simp only [hby, hother caller hindex, List.append_nil]
      exact h.registers caller other rest hrest
  · rw [List.getElem?_eq_none_iff, List.length_set] at hnone
    simp only [hby, hother caller (by omega), List.append_nil]
    exact h.no_other caller (List.getElem?_eq_none hnone)

theorem callersRegister_step [Errno] {action : ProcessAction} (h : process.CallersRegister)
    (hstep : process.step wasmRuntimeRegisterNatives action = some after) :
    after.CallersRegister := by
  cases action with
  | startup created =>
      obtain rfl := Option.some.inj hstep
      cases created <;> exact callersRegister_of_eq h rfl rfl
  | signal =>
      obtain rfl := Option.some.inj hstep
      exact callersRegister_of_eq h rfl rfl
  | join => rwa [eq_of_join hstep]
  | agent index action =>
      obtain ⟨thread, -, -, -, rfl⟩ := stepAgent_eq_some hstep
      obtain ⟨htrace, hcallers⟩ :=
        process.effect_insertions wasmRuntimeRegisterNatives thread action
      exact callersRegister_of_eq h hcallers htrace
  | call call =>
      obtain rfl := Option.some.inj hstep
      exact callersRegister_call h call
  | caller index answers => exact callersRegister_stepCaller h hstep

/-! ### The shape of the trace -/

theorem traceShape_stepAgent {action : ThreadAction} (hsingle : process.agents.length ≤ 1)
    (h : TraceShape process.trace process.queue process.symbolPhase)
    (hfails : action.stageFails = false)
    (hstep : process.stepAgent wasmRuntimeRegisterNatives index action = some after) :
    TraceShape after.trace after.queue after.symbolPhase := by
  obtain ⟨thread, hthread, hpc, hanswers, rfl⟩ := stepAgent_eq_some hstep
  obtain ⟨rfl, hagents⟩ : index = 0 ∧ process.agents = [thread] := by
    obtain ⟨hlength, hget⟩ := List.getElem?_eq_some_iff.mp hthread
    obtain ⟨only, honly⟩ := List.length_eq_one_iff.mp (show process.agents.length = 1 by omega)
    obtain rfl : index = 0 := by omega
    exact ⟨rfl, by simp_all⟩
  have hphase : process.symbolPhase = thread.pc.symbolPhase := by rw [symbolPhase, hagents]
  rw [hphase] at h
  simp only [symbolPhase, hagents, List.set_cons_zero]
  cases hmoves : action.movesSymbols with
  | false =>
      obtain ⟨htrace, hqueue⟩ := process.effect_symbols wasmRuntimeRegisterNatives thread hmoves
      rwa [htrace, hqueue, symbolPhase_perform hpc hfails hmoves]
  | true =>
      rw [hpc] at h
      cases action with
      | evpAgentFlushWasmNativeSymbols ret =>
          obtain rfl : ret = 0 := by simpa [ThreadAction.stageFails] using hfails
          have hret : (process.flush wasmRuntimeRegisterNatives).1 = 0 :=
            (of_decide_eq_true hanswers).symm
          have htrace : process.trace = process.queue.map .inserted := h
          exact ⟨process.queue, by
            simp only [effect, flush, flush_of_eq_zero hret, htrace, traceToConnect, List.map_nil,
              List.append_nil]⟩
      | evpAgentConnect ret =>
          obtain rfl : ret = 0 := by simpa [ThreadAction.stageFails] using hfails
          obtain ⟨early, htrace⟩ : ∃ early, process.trace = traceToConnect early process.queue := h
          exact ⟨early, process.queue, [], (List.append_nil _).symm, by rw [effect, htrace]; rfl⟩
      | _ => cases hmoves

theorem symbolPhase_congr (h : after.agents = process.agents) :
    after.symbolPhase = process.symbolPhase := by
  rw [symbolPhase, h, symbolPhase]

theorem length_agents_step [Errno] {action : ProcessAction}
    (hstep : process.step wasmRuntimeRegisterNatives action = some after) :
    process.agents.length ≤ after.agents.length := by
  by_cases hagent : ∃ index threadAction, action = .agent index threadAction
  · obtain ⟨index, threadAction, rfl⟩ := hagent
    obtain ⟨thread, -, -, -, rfl⟩ := stepAgent_eq_some hstep
    exact (List.length_set ..).ge
  · rcases (agents_of_other (fun index threadAction heq ↦ hagent ⟨index, threadAction, heq⟩)
      hstep).1 with hagents | hagents <;> simp [hagents]

theorem traceShape_step [Errno] {action : ProcessAction} (hsingle : after.agents.length ≤ 1)
    (h : TraceShape process.trace process.queue process.symbolPhase)
    (hfails : action.startupFails = false)
    (hstep : process.step wasmRuntimeRegisterNatives action = some after) :
    TraceShape after.trace after.queue after.symbolPhase := by
  cases action with
  | startup created =>
      obtain rfl := Option.some.inj hstep
      cases created with
      | false => exact h
      | true =>
          -- the thread that is started is the first one, and symbols are as before
          have hagents : process.agents = [] := by simpa [startup] using hsingle
          have hphase : process.symbolPhase = .waiting := by rw [symbolPhase, hagents]
          rw [hphase] at h
          simpa [startup, symbolPhase, hagents, AgentThread.initial, Pc.symbolPhase] using h
  | signal =>
      obtain rfl := Option.some.inj hstep
      exact h
  | join => rwa [eq_of_join hstep]
  | agent index action =>
      exact traceShape_stepAgent ((length_agents_step hstep).trans hsingle) h hfails hstep
  | call call =>
      obtain rfl := Option.some.inj hstep
      exact h
  | caller index answers =>
      obtain ⟨call, op, next, -, rfl⟩ := stepCaller_eq_some hstep
      obtain ⟨htrace, hqueue⟩ := process.perform_symbols index answers op
      have hagents := (process.perform_frame index answers op).1
      change TraceShape (perform index answers op process).2.trace
        (perform index answers op process).2.queue (perform index answers op process).2.symbolPhase
      rw [symbolPhase_congr hagents, htrace, hqueue]
      cases op with
      | insertTail entry => exact traceShape_insert h _
      | _ => simpa [ApiOp.inserts] using h

end Steps

end Process

/-! ## Runs -/

namespace SingleAgentRun

variable [Errno] {wasmRuntimeRegisterNatives : ℕ → Bool}

theorem callersRegister (run : SingleAgentRun wasmRuntimeRegisterNatives) :
    run.final.CallersRegister := by
  refine TransitionRun.invariant_run (fun _ process ↦ process.CallersRegister) ?_
    (fun _ _ _ _ h hstep ↦ Process.callersRegister_step h hstep) run.run_eq
  exact ⟨fun _ _ _ h ↦ by simp [Process.initial] at h, fun _ _ ↦ rfl⟩

theorem traceShape (run : SingleAgentRun wasmRuntimeRegisterNatives)
    (hstartup : ¬ run.StartupFails) :
    TraceShape run.final.trace run.final.queue run.final.symbolPhase := by
  refine TransitionRun.invariant_run
    (fun actions process ↦ process.agents.length ≤ 1 →
      ¬ actions.any ProcessAction.startupFails = true →
      TraceShape process.trace process.queue process.symbolPhase)
    ?_ (fun actions process action after h hstep hsingle hfails ↦ ?_)
    run.run_eq run.single hstartup
  · exact fun _ _ ↦ rfl
  rw [List.any_append, Bool.or_eq_true, not_or] at hfails
  have haction : action.startupFails = false := by simpa using hfails.2
  have hbefore := (Process.length_agents_step hstep).trans hsingle
  exact Process.traceShape_step hsingle (h hbefore hfails.1) haction hstep

/-- A connect is only reached after the flush. -/
theorem exists_trace_of_connected (run : SingleAgentRun wasmRuntimeRegisterNatives)
    (hstartup : ¬ run.StartupFails) (hconnected : .connected ∈ run.final.trace) :
    ∃ early late later, run.final.queue = late ++ later ∧
      run.final.trace =
        traceToConnect early late ++ SymbolEvent.connected :: later.map .inserted := by
  have hshape := run.traceShape hstartup
  cases hphase : run.final.symbolPhase with
  | waiting =>
      rw [hphase] at hshape
      have htrace : run.final.trace = run.final.queue.map .inserted := hshape
      simp [htrace] at hconnected
  | flushed =>
      rw [hphase] at hshape
      obtain ⟨early, htrace⟩ := hshape
      simp [htrace, traceToConnect] at hconnected
  | connected =>
      rw [hphase] at hshape
      exact hshape

/-- An accepted call has inserted its entry once. -/
theorem count_insertions_of_accepted (run : SingleAgentRun wasmRuntimeRegisterNatives)
    {caller : ℕ} {call : ApiCall} (h : run.final.callers[caller]? = some ⟨call, .done true⟩) :
    ∃ entry, call.registration? = some entry ∧
      (insertions run.final.trace).count ⟨caller, entry⟩ = 1 := by
  obtain ⟨entry, hentry, hinserted⟩ := run.callersRegister.registers caller call _ h
  refine ⟨entry, hentry, ?_⟩
  rw [← count_insertionsBy, hinserted]
  exact List.count_singleton_self

/-- What has been inserted was accepted. -/
theorem exists_accepted_of_mem (run : SingleAgentRun wasmRuntimeRegisterNatives)
    {entry : QueuedEntry} (h : entry ∈ insertions run.final.trace) :
    ∃ call, run.final.callers[entry.caller]? = some ⟨call, .done true⟩ ∧
      call.registration? = some entry.entry := by
  have hmem := mem_insertionsBy.mpr h
  cases hcaller : run.final.callers[entry.caller]? with
  | none =>
      rw [run.callersRegister.no_other entry.caller hcaller] at hmem
      cases hmem
  | some thread =>
      obtain ⟨call, rest⟩ := thread
      have hregisters := run.callersRegister.registers entry.caller call rest hcaller
      obtain rfl := done_of_registers hregisters (List.ne_nil_of_mem hmem)
      obtain ⟨accepted, haccepted, hinserted⟩ := hregisters
      rw [hinserted, List.mem_singleton] at hmem
      exact ⟨call, rfl, by rw [haccepted, hmem]⟩

end SingleAgentRun

/-- **Accepted native symbols.** No accepted registration is lost exactly when no entry is inserted
after the flush. -/
theorem noneLost_iff [Errno] {wasmRuntimeRegisterNatives : ℕ → Bool}
    (run : SingleAgentRun wasmRuntimeRegisterNatives) : run.NoneLost ↔ run.NoLateInsert := by
  constructor
  · intro hlost hstartup hconnected before after hbefore ⟨caller, entry⟩ hentry
    obtain ⟨early, late, later, -, htrace⟩ :=
      run.exists_trace_of_connected hstartup hconnected
    have hafter := eq_of_flushed (htrace.symm.trans hbefore)
    have hleft : ⟨caller, entry⟩ ∈ late ++ later := by simpa [hafter] using hentry
    have hinsertions : insertions run.final.trace = early ++ (late ++ later) := by
      simp [htrace, insertions_traceToConnect]
    -- the entry was accepted and inserted once, so it was not inserted early as well
    obtain ⟨call, hcall, hentry⟩ : ∃ call,
        run.final.callers[caller]? = some ⟨call, .done true⟩ ∧ call.registration? = some entry :=
      run.exists_accepted_of_mem (hinsertions ▸ List.mem_append_right early hleft)
    obtain ⟨same, hsame, hinserted⟩ := run.count_insertions_of_accepted hcall
    obtain ⟨other, hother, hpassed⟩ := hlost hstartup _ _ htrace caller call hcall
    obtain rfl := Option.some.inj (hentry.symm.trans hsame)
    obtain rfl := Option.some.inj (hentry.symm.trans hother)
    rw [count_passed_traceToConnect] at hpassed
    rw [hinsertions, List.count_append, hpassed] at hinserted
    have hpositive := List.count_pos_iff.mpr hleft
    omega
  · intro hlate hstartup before after hbefore caller call hcall
    have hconnected : .connected ∈ run.final.trace := by simp [hbefore]
    obtain ⟨early, late, later, -, htrace⟩ :=
      run.exists_trace_of_connected hstartup hconnected
    obtain ⟨entry, hentry, hinserted⟩ := run.count_insertions_of_accepted hcall
    refine ⟨entry, hentry, ?_⟩
    -- nothing is inserted late, so the entry was inserted early
    have hnone := hlate hstartup hconnected (early.map .inserted)
      (early.map SymbolEvent.passed ++ late.map SymbolEvent.inserted ++
        SymbolEvent.connected :: later.map .inserted)
      (by simp [htrace, traceToConnect])
    obtain ⟨rfl, rfl⟩ : late = [] ∧ later = [] := by
      constructor <;> refine List.eq_nil_iff_forall_not_mem.mpr fun left hleft ↦ ?_ <;>
        exact hnone left (by simp [hleft])
    rw [eq_of_connected (htrace.symm.trans hbefore), count_passed_traceToConnect]
    simpa [htrace, insertions_traceToConnect] using hinserted

/-- A call that reads the flag before the agent thread is started, and inserts its entry after the
flush. -/
def lateCall : ApiCall := .registerNatives (some "env") (some 1) 1

/-- The stages of an agent thread as far as the flush. -/
def flushingActions : List ThreadAction :=
  [.setStarted, .pthreadSetname 0, .evpAgentSetup 0, .evpAgentPlatformRegister 0,
    .agentStatusHandler 0, .evpAgentEsfInitProxyCache 0, .evpAgentNotificationsRegister 0,
    .evpAgentStart 0, .evpAgentFlushWasmNativeSymbols 0]

def lateActions : List ProcessAction :=
  .call lateCall :: .caller 0 ⟨true, .init, none, 0⟩ :: .caller 0 ⟨true, .init, none, 0⟩ ::
    .startup true :: List.append (flushingActions.map (.agent 0))
      [.caller 0 ⟨true, .init, none, 0⟩, .agent 0 (.evpAgentConnect 0)]

def lateRun : @SingleAgentRun Errno.linux (fun _ ↦ true) :=
  @SingleAgentRun.mk Errno.linux (fun _ ↦ true) lateActions
    ((@Process.run (fun _ ↦ true) Errno.linux lateActions).get (by decide))
    (Option.some_get _).symm (by decide)

/-- The late call returns `true`, and its symbols are never passed on. -/
theorem late_insert_lost : ¬ @SingleAgentRun.NoneLost Errno.linux (fun _ ↦ true) lateRun := by
  intro h
  have hstartup : ¬ @SingleAgentRun.StartupFails Errno.linux (fun _ ↦ true) lateRun := by
    change ¬ lateActions.any ProcessAction.startupFails = true
    decide
  obtain ⟨entry, hentry, hpassed⟩ :=
    h hstartup [.flushed, .inserted ⟨0, ⟨"env", 1, 1⟩⟩] [] rfl 0 lateCall rfl
  obtain rfl := Option.some.inj hentry
  exact absurd hpassed (by decide)

end EdgeDeviceCore.Agent
