import EdgeDeviceCore.Agent.Api
import EdgeDeviceCore.Data.TailQueue

/-!
# The queue of native symbols in memory

`evp_agent_wasm_native_symbol_add` allocates a node for each entry and inserts it at the tail of
`g_wasm_native_symbols.queue`. The flush walks the queue and unlinks and frees the node it is at,
also after a refusal. On the list of entries it does what `evpAgentFlushWasmNativeSymbols` says.
-/

open EdgeDeviceCore.Platform EdgeDeviceCore.Semantics EdgeDeviceCore.Data

namespace EdgeDeviceCore.Agent

/-- `g_wasm_native_symbols.queue`, with numbers as addresses. -/
abbrev SymbolQueue := TailQueue ℕ QueuedEntry

/-! ## Additions -/

/-- A call of `evp_agent_wasm_native_symbol_add`, with the memory that `malloc` gives it. -/
structure AddCall where
  moduleName : Option String
  nativeSymbols : Option ℕ
  nNativeSymbols : BitVec 32
  malloc : Option ℕ
deriving DecidableEq, Repr

namespace AddCall

/-- One access of the call. Only `malloc` and the insertion concern it. -/
def perform (call : AddCall) (caller : ℕ) :
    (op : ApiOp) → Option SymbolQueue → op.Reply × Option SymbolQueue
  | .malloc, queue => (call.malloc.isSome, queue)
  | .insertTail entry, queue =>
      ((), call.malloc.bind fun address ↦ queue.bind (TailQueue.insertTail address ⟨caller, entry⟩))
  | .readStarted, queue => (false, queue)
  | .getBackdoorContext, queue => (none, queue)
  | .evpAgentGetStatus _, queue => (.init, queue)
  | .evpAgentRegisterSysClient _, queue => (none, queue)
  | .evpAgentUnregisterSysClient _ _, queue => (0, queue)
  | .evpAgentUndeployAll _, queue => ((), queue)
  | .evpAgentEmptyDeploymentHasCompleted _, queue => (0, queue)

def run [Errno] (call : AddCall) (caller : ℕ) (queue : Option SymbolQueue) :
    ℤ × Option SymbolQueue :=
  (evpAgentWasmNativeSymbolAdd call.moduleName call.nativeSymbols call.nNativeSymbols).exec
    (call.perform caller) queue

/-- The node that the call inserts: an accepted entry at the address of its memory. -/
def inserted (call : AddCall) (caller : ℕ) : Option (ℕ × QueuedEntry) :=
  match call.moduleName, call.nativeSymbols, call.malloc with
  | some moduleName, some nativeSymbols, some address =>
      if call.nNativeSymbols = 0 then none
      else some (address, ⟨caller, ⟨moduleName, nativeSymbols, call.nNativeSymbols⟩⟩)
  | _, _, _ => none

variable [Errno]

/-- An accepted entry is inserted. -/
theorem run_of_some {call : AddCall} {caller address : ℕ} {entry : QueuedEntry}
    (h : call.inserted caller = some (address, entry)) (queue : Option SymbolQueue) :
    call.run caller queue = (0, queue.bind (TailQueue.insertTail address entry)) := by
  obtain ⟨_ | moduleName, _ | nativeSymbols, nNativeSymbols, _ | malloc⟩ := call
  case some.some.some =>
    unfold inserted at h
    dsimp only at h
    split at h
    · cases h
    · next hcount =>
        obtain ⟨rfl, rfl⟩ := Prod.mk.inj (Option.some.inj h)
        unfold run evpAgentWasmNativeSymbolAdd
        dsimp only
        rw [if_neg hcount]
        rfl
  all_goals cases h

/-- A call that is not accepted fails and leaves the queue as it is. -/
theorem run_of_none {call : AddCall} {caller : ℕ} (h : call.inserted caller = none)
    (queue : Option SymbolQueue) :
    (call.run caller queue).1 ≠ 0 ∧ (call.run caller queue).2 = queue := by
  obtain ⟨_ | moduleName, _ | nativeSymbols, nNativeSymbols, malloc⟩ := call
  case some.some =>
    unfold run evpAgentWasmNativeSymbolAdd
    dsimp only
    by_cases hcount : nNativeSymbols = 0
    · rw [if_pos hcount]
      exact ⟨Errno.neg_value_ne_zero _, rfl⟩
    · rw [if_neg hcount]
      cases malloc with
      | none => exact ⟨Errno.neg_value_ne_zero _, rfl⟩
      | some address =>
          unfold inserted at h
          dsimp only at h
          rw [if_neg hcount] at h
          cases h
  all_goals exact ⟨Errno.neg_value_ne_zero _, rfl⟩

end AddCall

/-- The nodes that calls insert, in order. Calls are numbered. -/
def insertedNodes (calls : List AddCall) : List (ℕ × QueuedEntry) :=
  calls.zipIdx.filterMap fun numbered ↦ numbered.1.inserted numbered.2

/-- The entries that calls add to the queue, in order. -/
def acceptedEntries (calls : List AddCall) : List QueuedEntry := (insertedNodes calls).map Prod.snd

/-- The queue after calls on the initial one. -/
def addAll [Errno] (calls : List AddCall) : Option SymbolQueue :=
  calls.zipIdx.foldl (fun queue numbered ↦ (numbered.1.run numbered.2 queue).2) (some .empty)

/-- Calls in which `malloc` never gives memory that is in use. Nothing is freed before a flush. -/
structure AddRun where
  calls : List AddCall
  fresh : ((insertedNodes calls).map Prod.fst).Nodup

theorem insertedNodes_concat (calls : List AddCall) (call : AddCall) :
    insertedNodes (calls ++ [call]) = insertedNodes calls ++ (call.inserted calls.length).toList := by
  rw [insertedNodes, List.zipIdx_append, List.filterMap_append, insertedNodes]
  congr 1
  cases h : call.inserted calls.length <;> simp [h]

section Additions

variable [Errno]

theorem addAll_concat (calls : List AddCall) (call : AddCall) :
    addAll (calls ++ [call]) = (call.run calls.length (addAll calls)).2 := by
  rw [addAll, List.zipIdx_append, List.foldl_append, addAll]
  simp

/-- The queue holds the accepted entries in the order of their calls. -/
theorem addAll_represents {calls : List AddCall}
    (h : ((insertedNodes calls).map Prod.fst).Nodup) :
    ∃ queue, addAll calls = some queue ∧ queue.Represents (insertedNodes calls) ∧
      queue.removed = [] ∧ queue.freed = [] := by
  induction calls using List.reverseRecOn with
  | nil => exact ⟨.empty, rfl, TailQueue.represents_empty, rfl, rfl⟩
  | append_singleton calls call ih =>
      rw [insertedNodes_concat] at h ⊢
      rw [List.map_append, List.nodup_append] at h
      obtain ⟨queue, hqueue, hrepresents, hremoved, hfreed⟩ := ih h.1
      rw [addAll_concat, hqueue]
      cases hinserted : call.inserted calls.length with
      | none =>
          rw [(AddCall.run_of_none hinserted _).2, Option.toList_none, List.append_nil]
          exact ⟨queue, rfl, hrepresents, hremoved, hfreed⟩
      | some node =>
          obtain ⟨address, entry⟩ := node
          rw [hinserted] at h
          have hnew : address ∉ (insertedNodes calls).map Prod.fst := fun hmem ↦
            h.2.2 address hmem address (List.mem_singleton_self address) rfl
          obtain ⟨queue', hinsert, hrepresents', hremoved', hfreed'⟩ :=
            hrepresents.insertTail hnew entry
          rw [AddCall.run_of_some hinserted, Option.bind_some, hinsert]
          exact ⟨queue', rfl, hrepresents', hremoved'.trans hremoved, hfreed'.trans hfreed⟩

end Additions

/-! ## The flush -/

structure FlushState where
  queue : SymbolQueue
  ret : ℤ
  /-- The entries passed to `wasm_runtime_register_natives`. -/
  passed : List QueuedEntry

/-- The body of the loop, where `wasmRuntimeRegisterNatives n` is the answer to the `n`-th entry. -/
def flushEntry (wasmRuntimeRegisterNatives : ℕ → Bool) (entry : ℕ) (state : FlushState) :
    Option FlushState :=
  (state.queue.node entry).bind fun node ↦
    let (ret, passed) :=
      if state.ret = 0 then
        (if wasmRuntimeRegisterNatives state.passed.length then state.ret else -1,
          state.passed ++ [node.entry])
      else (state.ret, state.passed)
    ((state.queue.remove entry).bind (TailQueue.free entry)).map fun queue ↦ ⟨queue, ret, passed⟩

/-- `evp_agent_flush_wasm_native_symbols` on the queue in memory. -/
def flushQueue (wasmRuntimeRegisterNatives : ℕ → Bool) (fuel : ℕ) (queue : SymbolQueue) :
    Option FlushState :=
  TailQueue.forEachSafe FlushState.queue (flushEntry wasmRuntimeRegisterNatives) fuel queue.first
    ⟨queue, 0, []⟩

section Flush

variable {wasmRuntimeRegisterNatives : ℕ → Bool} {nodes : List (ℕ × QueuedEntry)}

/-- A point of a flush of some nodes: the rest of them are still in the queue, the others have been
removed and freed once, and the list flush would continue from here to its result. -/
structure FlushPoint (wasmRuntimeRegisterNatives : ℕ → Bool) (nodes rest : List (ℕ × QueuedEntry))
    (state : FlushState) : Prop where
  represents : state.queue.Represents rest
  removed : state.queue.removed ++ rest.map Prod.fst = nodes.map Prod.fst
  freed : state.queue.freed ++ rest.map Prod.fst = nodes.map Prod.fst
  ret : (evpAgentFlushWasmNativeSymbols wasmRuntimeRegisterNatives state.passed.length state.ret
      (rest.map Prod.snd)).1 =
    (evpAgentFlushWasmNativeSymbols wasmRuntimeRegisterNatives 0 0 (nodes.map Prod.snd)).1
  passed : state.passed ++ (evpAgentFlushWasmNativeSymbols wasmRuntimeRegisterNatives
      state.passed.length state.ret (rest.map Prod.snd)).2 =
    (evpAgentFlushWasmNativeSymbols wasmRuntimeRegisterNatives 0 0 (nodes.map Prod.snd)).2

theorem flushPoint_step (address : ℕ) (entry : QueuedEntry) (rest : List (ℕ × QueuedEntry))
    (state : FlushState)
    (h : FlushPoint wasmRuntimeRegisterNatives nodes ((address, entry) :: rest) state) :
    ∃ state', flushEntry wasmRuntimeRegisterNatives address state = some state' ∧
      FlushPoint wasmRuntimeRegisterNatives nodes rest state' := by
  obtain ⟨hrepresents, hremoved, hfreed, hret, hpassed⟩ := h
  obtain ⟨queue, hqueue, hrest, hremoved', hfreed'⟩ := hrepresents.remove_free
  have hremovedRest : queue.removed ++ rest.map Prod.fst = nodes.map Prod.fst := by
    rw [hremoved', List.append_assoc, ← hremoved]
    rfl
  have hfreedRest : queue.freed ++ rest.map Prod.fst = nodes.map Prod.fst := by
    rw [hfreed', List.append_assoc, ← hfreed]
    rfl
  rw [List.map_cons, evpAgentFlushWasmNativeSymbols] at hret hpassed
  rw [flushEntry, hrepresents.node_cons, Option.bind_some, hqueue]
  by_cases hzero : state.ret = 0
  · rw [if_pos hzero] at hret hpassed ⊢
    refine ⟨_, rfl, hrest, hremovedRest, hfreedRest, ?_, ?_⟩
    · rw [List.length_append, List.length_singleton]
      exact hret
    · rw [List.length_append, List.length_singleton, List.append_assoc]
      exact hpassed
  · rw [if_neg hzero] at hret hpassed ⊢
    exact ⟨_, rfl, hrest, hremovedRest, hfreedRest, hret, hpassed⟩

/-- The flush in memory empties the queue, and does what the list flush says. -/
theorem flushQueue_eq (wasmRuntimeRegisterNatives : ℕ → Bool) {queue : SymbolQueue}
    (h : queue.Represents nodes) (hremoved : queue.removed = []) (hfreed : queue.freed = [])
    {fuel : ℕ} (hfuel : nodes.length ≤ fuel) :
    ∃ state, flushQueue wasmRuntimeRegisterNatives fuel queue = some state ∧
      state.queue.Represents [] ∧ state.queue.removed = nodes.map Prod.fst ∧
      state.queue.freed = nodes.map Prod.fst ∧
      evpAgentFlushWasmNativeSymbols wasmRuntimeRegisterNatives 0 0 (nodes.map Prod.snd) =
        (state.ret, state.passed) := by
  have hstart : FlushPoint wasmRuntimeRegisterNatives nodes nodes ⟨queue, 0, []⟩ :=
    ⟨h, by rw [hremoved, List.nil_append], by rw [hfreed, List.nil_append], rfl, rfl⟩
  obtain ⟨state, hstate, hend⟩ := TailQueue.forEachSafe_drain
    (fun _ _ hpoint ↦ hpoint.represents) flushPoint_step hstart hfuel
  obtain ⟨hrepresents, hremoved, hfreed, hret, hpassed⟩ := hend
  rw [List.map_nil, List.append_nil] at hremoved hfreed
  rw [List.map_nil, evpAgentFlushWasmNativeSymbols] at hret hpassed
  rw [List.append_nil] at hpassed
  exact ⟨state, hstate, hrepresents, hremoved, hfreed, Prod.ext hret.symm hpassed.symm⟩

end Flush

/-- What is passed on of a list of entries: everything up to and including the first refusal. -/
structure PassedUpToRefusal (registers : ℕ → Bool) (entries passed : List QueuedEntry) (ret : ℤ) :
    Prop where
  inOrder : passed <+: entries
  registered : ∀ n, n + 1 < passed.length → registers n = true
  complete : passed = entries ∨ ∃ n, passed.length = n + 1 ∧ registers n = false
  ret_eq_zero_iff : ret = 0 ↔ ∀ n < passed.length, registers n = true

theorem PassedUpToRefusal.cons {registers : ℕ → Bool} {entries passed : List QueuedEntry} {ret : ℤ}
    (h : PassedUpToRefusal (fun n ↦ registers (n + 1)) entries passed ret)
    (hfirst : registers 0 = true) (entry : QueuedEntry) :
    PassedUpToRefusal registers (entry :: entries) (entry :: passed) ret where
  inOrder := List.cons_prefix_cons.mpr ⟨rfl, h.inOrder⟩
  registered n hn := by
    cases n with
    | zero => exact hfirst
    | succ n => exact h.registered n (Nat.lt_of_succ_lt_succ hn)
  complete := by
    rcases h.complete with hall | ⟨n, hlength, hrefused⟩
    · exact .inl (by rw [hall])
    · exact .inr ⟨n + 1, by rw [List.length_cons, hlength], hrefused⟩
  ret_eq_zero_iff := by
    rw [h.ret_eq_zero_iff, List.length_cons]
    constructor
    · intro hrest n hn
      cases n with
      | zero => exact hfirst
      | succ n => exact hrest n (Nat.lt_of_succ_lt_succ hn)
    · exact fun hall n hn ↦ hall (n + 1) (Nat.succ_lt_succ hn)

section ListFlush

variable {wasmRuntimeRegisterNatives : ℕ → Bool} {calls : ℕ}

theorem flush_cons_of_false (h : wasmRuntimeRegisterNatives calls = false) (entry : QueuedEntry)
    (entries : List QueuedEntry) :
    evpAgentFlushWasmNativeSymbols wasmRuntimeRegisterNatives calls 0 (entry :: entries) =
      (-1, [entry]) := by
  have hrest : evpAgentFlushWasmNativeSymbols wasmRuntimeRegisterNatives (calls + 1) (-1) entries =
      (-1, []) := flush_of_ne_zero (by decide) entries
  rw [evpAgentFlushWasmNativeSymbols, if_pos rfl, h, if_neg Bool.false_ne_true]
  dsimp only
  rw [hrest]

theorem flush_cons_of_true (h : wasmRuntimeRegisterNatives calls = true) (entry : QueuedEntry)
    (entries : List QueuedEntry) :
    evpAgentFlushWasmNativeSymbols wasmRuntimeRegisterNatives calls 0 (entry :: entries) =
      ((evpAgentFlushWasmNativeSymbols wasmRuntimeRegisterNatives (calls + 1) 0 entries).1,
        entry ::
          (evpAgentFlushWasmNativeSymbols wasmRuntimeRegisterNatives (calls + 1) 0 entries).2) := by
  rw [evpAgentFlushWasmNativeSymbols, if_pos rfl, h, if_pos rfl]

end ListFlush

theorem passedUpToRefusal_flush (wasmRuntimeRegisterNatives : ℕ → Bool) (calls : ℕ)
    (entries : List QueuedEntry) :
    PassedUpToRefusal (fun n ↦ wasmRuntimeRegisterNatives (calls + n)) entries
      (evpAgentFlushWasmNativeSymbols wasmRuntimeRegisterNatives calls 0 entries).2
      (evpAgentFlushWasmNativeSymbols wasmRuntimeRegisterNatives calls 0 entries).1 := by
  induction entries generalizing calls with
  | nil => exact ⟨List.prefix_rfl, nofun, .inl rfl, iff_of_true rfl nofun⟩
  | cons entry entries ih =>
      cases hregistered : wasmRuntimeRegisterNatives calls with
      | false =>
          rw [flush_cons_of_false hregistered]
          have hret : (-1 : ℤ) ≠ 0 := by decide
          refine ⟨⟨entries, rfl⟩, ?_, .inr ⟨0, rfl, hregistered⟩, iff_of_false hret ?_⟩
          · intro n hn
            exact absurd hn (by simp)
          · intro hall
            exact absurd ((hall 0 Nat.one_pos).symm.trans hregistered) (by decide)
      | true =>
          have hshift : (fun n ↦ wasmRuntimeRegisterNatives (calls + 1 + n)) =
              fun n ↦ wasmRuntimeRegisterNatives (calls + (n + 1)) := by
            funext n
            rw [Nat.add_assoc, Nat.add_comm 1]
          rw [flush_cons_of_true hregistered]
          exact PassedUpToRefusal.cons (hshift ▸ ih (calls + 1)) hregistered entry

theorem length_insertedNodes_le (calls : List AddCall) :
    (insertedNodes calls).length ≤ calls.length := by
  calc (insertedNodes calls).length
      ≤ calls.zipIdx.length := List.length_filterMap_le _ _
    _ = calls.length := List.length_zipIdx

/-- After any additions a flush passes on the accepted entries up to the first refusal, and removes
and frees every node once. -/
theorem flush_addRun [Errno] (wasmRuntimeRegisterNatives : ℕ → Bool) (run : AddRun) (extra : ℕ) :
    ∃ state, (addAll run.calls).bind
        (flushQueue wasmRuntimeRegisterNatives (run.calls.length + extra)) = some state ∧
      PassedUpToRefusal wasmRuntimeRegisterNatives (acceptedEntries run.calls) state.passed
        state.ret ∧
      state.queue.removed = (insertedNodes run.calls).map Prod.fst ∧
      state.queue.freed = (insertedNodes run.calls).map Prod.fst ∧
      ((insertedNodes run.calls).map Prod.fst).Nodup ∧
      state.queue.first = none ∧ state.queue.last = .head ∧
      ∀ address, state.queue.node address = none := by
  obtain ⟨queue, hqueue, hrepresents, hremoved, hfreed⟩ := addAll_represents run.fresh
  have hfuel : (insertedNodes run.calls).length ≤ run.calls.length + extra :=
    (length_insertedNodes_le run.calls).trans (Nat.le_add_right _ _)
  obtain ⟨state, hstate, hempty, hremoved', hfreed', hflush⟩ :=
    flushQueue_eq wasmRuntimeRegisterNatives hrepresents hremoved hfreed hfuel
  have hpassed := passedUpToRefusal_flush wasmRuntimeRegisterNatives 0 (acceptedEntries run.calls)
  have hnumbers : (fun n ↦ wasmRuntimeRegisterNatives (0 + n)) = wasmRuntimeRegisterNatives := by
    funext n
    rw [Nat.zero_add]
  rw [acceptedEntries, hflush, hnumbers] at hpassed
  refine ⟨state, ?_, hpassed, hremoved', hfreed', run.fresh, hempty.eq_empty⟩
  rw [hqueue, Option.bind_some, hstate]

/-- Additions of which one has no symbols and one gets no memory. -/
def someAdditions : AddRun where
  calls := [⟨some "first", some 1, 2, some 100⟩, ⟨some "empty", some 2, 0, some 200⟩,
    ⟨some "second", some 3, 1, some 300⟩, ⟨some "third", some 4, 1, none⟩,
    ⟨some "fourth", some 5, 1, some 200⟩]
  fresh := by decide

/-- The second entry is refused: the third is not passed on, and all nodes are freed. -/
theorem flush_addRun_someAdditions :
    ∃ state, (@addAll Errno.linux someAdditions.calls).bind (flushQueue (fun n ↦ n ≠ 1) 5) =
        some state ∧
      PassedUpToRefusal (fun n ↦ n ≠ 1) (acceptedEntries someAdditions.calls) state.passed
        state.ret ∧ state.queue.freed = [100, 300, 200] := by
  obtain ⟨state, hstate, hpassed, -, hfreed, -⟩ :=
    @flush_addRun Errno.linux (fun n ↦ n ≠ 1) someAdditions 0
  exact ⟨state, hstate, hpassed, hfreed⟩

end EdgeDeviceCore.Agent
