import EdgeDeviceCore.Agent.Thread
import EdgeDeviceCore.Platform.Errno
import EdgeDeviceCore.Semantics.AtomicProgram

/-!
# The functions of `evp-agent.c` that other threads call

The backdoor API hands calls on to the library with the published context, and
`EVP_wasm_runtime_register_natives` queues native symbols for the agent thread. Each function is a
program over its accesses to what the threads share: the flag `started`, which is read without a
lock, the published context and the queue, each under its own lock, and the calls of the library
and of `malloc`. The messages the functions log are left out.
-/

open EdgeDeviceCore.Platform EdgeDeviceCore.Semantics

namespace EdgeDeviceCore.Agent

/-- `struct native_symbol_entry`; the symbols are known by the address of their table. -/
structure NativeSymbolEntry where
  moduleName : String
  nativeSymbols : ℕ
  nNativeSymbols : BitVec 32
deriving DecidableEq, Repr

/-- The clients of the library, numbered. -/
abbrev SysClient := ℕ

/-- `enum evp_agent_status`; the sources only tell `EVP_AGENT_STATUS_INIT` apart. -/
inductive AgentStatus where
  | init
  | other (status : ℕ)
deriving DecidableEq, Repr

/-! ## Operations -/

inductive ApiOp where
  | readStarted
  | malloc
  | insertTail (entry : NativeSymbolEntry)
  | getBackdoorContext
  | evpAgentGetStatus (ctxt : Context)
  | evpAgentRegisterSysClient (ctxt : Context)
  | evpAgentUnregisterSysClient (ctxt : Context) (c : SysClient)
  | evpAgentUndeployAll (ctxt : Option Context)
  | evpAgentEmptyDeploymentHasCompleted (ctxt : Option Context)
deriving DecidableEq, Repr

abbrev ApiOp.Reply : ApiOp → Type
  | .readStarted => Bool
  | .malloc => Bool
  | .insertTail _ => Unit
  | .getBackdoorContext => Option Context
  | .evpAgentGetStatus _ => AgentStatus
  | .evpAgentRegisterSysClient _ => Option SysClient
  | .evpAgentUnregisterSysClient _ _ => ℤ
  | .evpAgentUndeployAll _ => Unit
  | .evpAgentEmptyDeploymentHasCompleted _ => ℤ

abbrev Api := AtomicProgram ApiOp ApiOp.Reply

/-- One access or call. -/
def access (op : ApiOp) : Api op.Reply := .issue op .done

/-! ## The backdoor -/

def evpGetAgentStatus : Api AgentStatus := do
  let ctxt ← access .getBackdoorContext
  match ctxt with
  | none => return .init
  | some ctxt => access (.evpAgentGetStatus ctxt)

def evpAgentRegisterSysClient : Api (Option SysClient) := do
  let ctxt ← access .getBackdoorContext
  match ctxt with
  | none => return none
  | some ctxt => access (.evpAgentRegisterSysClient ctxt)

def evpAgentUnregisterSysClient (c : SysClient) : Api ℤ := do
  let ctxt ← access .getBackdoorContext
  match ctxt with
  | none => return -1
  | some ctxt => access (.evpAgentUnregisterSysClient ctxt c)

/-- The results of `EVP_undeployModules`: `EVP_AGAIN`, or what the library answers. -/
inductive UndeployResult where
  | again
  | completed (result : ℤ)
deriving DecidableEq, Repr

/-- The context is read a second time, and used without a check. -/
def evpUndeployModules : Api UndeployResult := do
  let status ← evpGetAgentStatus
  if status = .init then
    return .again
  else
    let ctxt ← access .getBackdoorContext
    access (.evpAgentUndeployAll ctxt)
    let result ← access (.evpAgentEmptyDeploymentHasCompleted ctxt)
    return .completed result

/-! ## Native symbols -/

def evpAgentWasmNativeSymbolAdd [Errno] (moduleName : Option String) (nativeSymbols : Option ℕ)
    (nNativeSymbols : BitVec 32) : Api ℤ :=
  match moduleName with
  | none => return -Errno.value .EINVAL
  | some moduleName =>
      match nativeSymbols with
      | none => return -Errno.value .EINVAL
      | some nativeSymbols =>
          if nNativeSymbols = 0 then
            return -Errno.value .EINVAL
          else do
            let allocated ← access .malloc
            if allocated then
              access (.insertTail ⟨moduleName, nativeSymbols, nNativeSymbols⟩)
              return 0
            else
              return -Errno.value .ENOMEM

def evpWasmRuntimeRegisterNatives [Errno] (moduleName : Option String)
    (nativeSymbols : Option ℕ) (nNativeSymbols : BitVec 32) : Api Bool := do
  let started ← access .readStarted
  if started then
    return false
  else
    let ret ← evpAgentWasmNativeSymbolAdd moduleName nativeSymbols nNativeSymbols
    return ret = 0

/-- The calls that other threads make. -/
inductive ApiCall where
  | getAgentStatus
  | registerSysClient
  | unregisterSysClient (c : SysClient)
  | undeployModules
  | registerNatives (moduleName : Option String) (nativeSymbols : Option ℕ)
      (nNativeSymbols : BitVec 32)
deriving DecidableEq, Repr

/-- The program of a call. Its result tells whether native symbols have been accepted. -/
def ApiCall.program [Errno] : ApiCall → Api Bool
  | .getAgentStatus => do let _ ← evpGetAgentStatus; return false
  | .registerSysClient => do let _ ← evpAgentRegisterSysClient; return false
  | .unregisterSysClient c => do let _ ← evpAgentUnregisterSysClient c; return false
  | .undeployModules => do let _ ← evpUndeployModules; return false
  | .registerNatives moduleName nativeSymbols nNativeSymbols =>
      evpWasmRuntimeRegisterNatives moduleName nativeSymbols nNativeSymbols

/-! ## The flush -/

/-- An entry of the queue, with the call that inserted it. -/
structure QueuedEntry where
  caller : ℕ
  entry : NativeSymbolEntry
deriving DecidableEq, Repr

/-- `evp_agent_flush_wasm_native_symbols` on a queue: its result, and the entries that it passes on,
where `wasmRuntimeRegisterNatives n` is the answer to the `n`-th entry ever passed on. After a
refusal the rest of the queue is dropped. -/
def evpAgentFlushWasmNativeSymbols (wasmRuntimeRegisterNatives : ℕ → Bool) :
    ℕ → ℤ → List QueuedEntry → ℤ × List QueuedEntry
  | _, ret, [] => (ret, [])
  | calls, ret, entry :: queue =>
      if ret = 0 then
        let ret := if wasmRuntimeRegisterNatives calls then ret else -1
        let (result, passed) :=
          evpAgentFlushWasmNativeSymbols wasmRuntimeRegisterNatives (calls + 1) ret queue
        (result, entry :: passed)
      else
        evpAgentFlushWasmNativeSymbols wasmRuntimeRegisterNatives calls ret queue

theorem flush_of_ne_zero {wasmRuntimeRegisterNatives : ℕ → Bool} {calls : ℕ} {ret : ℤ}
    (hret : ret ≠ 0) (queue : List QueuedEntry) :
    evpAgentFlushWasmNativeSymbols wasmRuntimeRegisterNatives calls ret queue = (ret, []) := by
  induction queue with
  | nil => rfl
  | cons entry queue ih => rw [evpAgentFlushWasmNativeSymbols, if_neg hret, ih]

/-- A flush that succeeds has passed on every entry of the queue once, in order. -/
theorem flush_of_eq_zero {wasmRuntimeRegisterNatives : ℕ → Bool} {calls : ℕ}
    {queue : List QueuedEntry}
    (h : (evpAgentFlushWasmNativeSymbols wasmRuntimeRegisterNatives calls 0 queue).1 = 0) :
    (evpAgentFlushWasmNativeSymbols wasmRuntimeRegisterNatives calls 0 queue).2 = queue := by
  induction queue generalizing calls with
  | nil => rfl
  | cons entry queue ih =>
      rw [evpAgentFlushWasmNativeSymbols, if_pos rfl] at h ⊢
      cases haccepted : wasmRuntimeRegisterNatives calls with
      | true =>
          simp only [haccepted, if_true] at h ⊢
          rw [ih h]
      | false =>
          simp only [haccepted, Bool.false_eq_true, if_false,
            flush_of_ne_zero (show (-1 : ℤ) ≠ 0 by decide)] at h
          exact absurd h (by decide)

end EdgeDeviceCore.Agent
