import EdgeDeviceCore.Esf.ProxyCycles
import EdgeDeviceCore.Esf.ValueText
import EdgeDeviceCore.Notifications.StatusMemory

/-!
# Memory over whole runs

Any calls of the functions that acquire memory or descriptors, one after another, with the values
that the agent has not freed yet. What is held then are the strings of the proxy cache and the
blocks of these values: nothing is lost, nothing is freed twice and nothing is read after it was
freed.
-/

open EdgeDeviceCore.Esf EdgeDeviceCore.Esf.Memory EdgeDeviceCore.Platform
open EdgeDeviceCore.Notifications.StatusMemory
open EdgeDeviceCore.Semantics.Resources

namespace EdgeDeviceCore.Agent.MemoryRuns

/-- The proxy cache, and the values that were returned and not freed. -/
structure Process where
  cache : Memory.ProxyCache
  configs : List OwnedConfig

namespace Process

def start : Process := ⟨.empty, []⟩

def blocks (process : Process) : Multiset (Handle Memory.Resource) :=
  process.cache.blocks + (process.configs.map OwnedConfig.blocks).sum

end Process

section

variable [ReadConfig.MaxSizes]

inductive Call where
  | initProxyCache (answers : InitAnswers)
  | deinitProxyCache
  | getConfig (getEvpTls : Option EvpTlsValue) (sources : ReadConfig.Sources)
      (left : Option OwnedString) (key : ℕ)
  /-- The agent frees one of the values that it was given. -/
  | freeConfig (index : ℕ)
  | isEnrollmentMode (sources : ReadConfig.Sources) (left : Option OwnedString)
      (answers : EnrollmentAnswers)

def Call.cacheOp : Call → Option CacheOp
  | .initProxyCache answers => some (.init answers)
  | .deinitProxyCache => some .deinit
  | .getConfig .. | .freeConfig _ | .isEnrollmentMode .. => none

def cacheOps (calls : List Call) : List CacheOp := calls.filterMap Call.cacheOp

variable [Errno] [ProxyLengths] [ReadConfig.KeyNumbers]

def perform (process : Process) : Call → Program Memory.Resource Process
  | .initProxyCache answers => do
      let (_, cache) ← Memory.evpAgentEsfInitProxyCache answers process.cache
      pure { process with cache := cache }
  | .deinitProxyCache => do
      let cache ← Memory.evpAgentEsfDeinitProxyCache process.cache
      pure { process with cache := cache }
  | .getConfig getEvpTls sources left key => do
      let config ← Memory.getConfigImpl getEvpTls sources left process.cache key
      pure { process with configs := process.configs ++ config.toList }
  | .freeConfig index =>
      match process.configs[index]? with
      | none => pure process
      | some config => do
          free config.block
          free config.valueBlock
          pure { process with configs := process.configs.eraseIdx index }
  | .isEnrollmentMode sources left answers => do
      let _ ← Notifications.StatusMemory.isEnrollmentMode sources left process.cache answers
      pure process

def performAll (calls : List Call) : Program Memory.Resource Process :=
  calls.foldlM perform Process.start

/-- How the functions are to be called: a successful initialisation is followed by a clearing before
the next one, and a failed `asprintf` leaves no pointer behind. -/
structure CalledAsMeant (calls : List Call) : Prop where
  paired : ∀ done answers, done ++ [CacheOp.init answers] <+: cacheOps calls →
    (runCache done).initialised = false
  left : ∀ getEvpTls sources left key, Call.getConfig getEvpTls sources left key ∈ calls →
    ReachesFailedAsprintf sources key → left = none

/-! ## What is held -/

/-- The process holds what it owns, and its cache is that of the run without memory. -/
def Holds (ops : List CacheOp) (process : Process) (rest : Multiset (Handle Memory.Resource)) :
    Prop :=
  rest = process.blocks ∧ process.cache.data = (runCache ops).cache

omit [ReadConfig.MaxSizes] [Errno] [ProxyLengths] [ReadConfig.KeyNumbers] in
/-- The blocks of one value and of the others. -/
theorem sum_eraseIdx {configs : List OwnedConfig} {index : ℕ} {config : OwnedConfig}
    (h : configs[index]? = some config) :
    (configs.map OwnedConfig.blocks).sum =
      ((configs.eraseIdx index).map OwnedConfig.blocks).sum + {config.valueBlock} +
        {config.block} := by
  obtain ⟨hlt, rfl⟩ := List.getElem?_eq_some_iff.mp h
  have hperm := (List.getElem_cons_eraseIdx_perm hlt).map OwnedConfig.blocks
  rw [← hperm.sum_eq, List.map_cons, List.sum_cons, OwnedConfig.blocks]
  abel

/-- One more call. -/
theorem triple_perform {ops : List CacheOp} {process : Process} {call : Call}
    (hcache : process.cache.data = (runCache ops).cache)
    (hinit : ∀ answers, call = .initProxyCache answers → (runCache ops).initialised = false)
    (hleft : ∀ getEvpTls sources left key, call = .getConfig getEvpTls sources left key →
      ReachesFailedAsprintf sources key → left = none) :
    Triple process.blocks (perform process call) (Holds (ops ++ call.cacheOp.toList)) := by
  -- A call that does nothing to the cache adds no operation.
  have hsame : process.cache.data = (runCache (ops ++ (none : Option CacheOp).toList)).cache := by
    rw [Option.toList_none, List.append_nil]
    exact hcache
  cases call with
  | initProxyCache answers =>
      rw [perform]
      have hcleared : process.cache.Cleared :=
        Memory.ProxyCache.cleared_iff.mpr (hcache ▸ cleared_of_not_initialised ops (hinit _ rfl))
      rw [Process.blocks, hcleared.blocks_eq]
      apply ((triple_initProxyCache hcleared).frame
        (process.configs.map OwnedConfig.blocks).sum).bind
      rintro ⟨ret, cache⟩ rest ⟨own, rfl, hresult, rfl⟩
      apply Triple.pure
      refine ⟨rfl, ?_⟩
      rw [Call.cacheOp, Option.toList_some, runCache_concat, CacheState.perform, ← hcache]
      exact congrArg Prod.snd hresult
  | deinitProxyCache =>
      rw [perform]
      apply ((triple_deinitProxyCache process.cache).frame
        (process.configs.map OwnedConfig.blocks).sum).bind
      rintro cache rest ⟨own, rfl, hdata, hblocks, rfl⟩
      apply Triple.pure
      refine ⟨?_, ?_⟩
      · rw [Process.blocks, hblocks]
      · rw [Call.cacheOp, Option.toList_some, runCache_concat, CacheState.perform, ← hcache]
        exact hdata
  | getConfig getEvpTls sources left key =>
      rw [perform]
      apply ((triple_getConfig (hleft _ _ _ _ rfl)).frame
        (process.configs.map OwnedConfig.blocks).sum).bind
      rintro config rest ⟨own, rfl, -, rfl⟩
      apply Triple.pure
      refine ⟨?_, hsame⟩
      rw [Process.blocks, List.map_append, List.sum_append, add_assoc, add_comm (returnedBlocks _)]
      cases config with
      | none => rfl
      | some config => simp [returnedBlocks]
  | freeConfig index =>
      rw [perform]
      cases hindex : process.configs[index]? with
      | none => exact Triple.pure ⟨rfl, hsame⟩
      | some config =>
          rw [Process.blocks, sum_eraseIdx hindex, ← add_assoc, ← add_assoc]
          apply triple_free
          apply triple_free
          exact Triple.pure ⟨rfl, hsame⟩
  | isEnrollmentMode sources left answers =>
      rw [perform]
      obtain ⟨inputs, hreads⟩ := exists_reads sources process.cache answers
      apply ((triple_isEnrollmentMode hreads).frame
        (process.configs.map OwnedConfig.blocks).sum).bind
      rintro mode rest ⟨own, rfl, -, rfl⟩
      exact Triple.pure ⟨rfl, hsame⟩

theorem performAll_concat (calls : List Call) (call : Call) :
    performAll (calls ++ [call]) = performAll calls >>= fun process ↦ perform process call := by
  simp [performAll]

omit [Errno] [ProxyLengths] [ReadConfig.KeyNumbers] in
theorem cacheOps_concat (calls : List Call) (call : Call) :
    cacheOps (calls ++ [call]) = cacheOps calls ++ call.cacheOp.toList := by
  rw [cacheOps, List.filterMap_append]
  cases h : call.cacheOp <;> simp [cacheOps, h]

/-- Calls that are made as they are meant to hold what the process owns. -/
theorem triple_performAll {calls : List Call} (h : CalledAsMeant calls) :
    Triple 0 (performAll calls) (Holds (cacheOps calls)) := by
  induction calls using List.reverseRecOn with
  | nil => exact Triple.pure ⟨rfl, rfl⟩
  | append_singleton calls call ih =>
      have hbefore : CalledAsMeant calls := {
        paired := fun done answers hdone ↦ h.paired done answers
          (hdone.trans (cacheOps_concat calls call ▸ List.prefix_append _ _))
        left := fun getEvpTls sources left key hmem ↦
          h.left getEvpTls sources left key (List.mem_append_left _ hmem) }
      rw [performAll_concat, cacheOps_concat]
      apply (ih hbefore).bind
      rintro process rest ⟨rfl, hcache⟩
      apply triple_perform hcache
      · rintro answers rfl
        apply h.paired _ answers
        rw [cacheOps_concat]
        exact List.prefix_rfl
      · rintro getEvpTls sources left key rfl
        exact h.left getEvpTls sources left key (by simp)

/-- Whatever is called, in whatever order and with whatever failures, nothing faults, and what is
held are the strings of the proxy cache and the values that are not freed yet. -/
theorem performAll_holds {calls : List Call} (h : CalledAsMeant calls) :
    ∃ process ledger, (performAll calls).run Ledger.empty = some (process, ledger) ∧
      ledger.held.val = process.cache.blocks + (process.configs.map OwnedConfig.blocks).sum ∧
      process.cache.data = (runCache (cacheOps calls)).cache ∧
      ((runCache (cacheOps calls)).initialised = false → process.configs = [] →
        ledger.held = ∅) := by
  obtain ⟨process, ledger, hrun, hheld, hcache⟩ := (triple_performAll h).exists_run Ledger.empty rfl
  refine ⟨process, ledger, hrun, hheld, hcache, fun hcleared hconfigs ↦ ?_⟩
  have hblocks : process.cache.Cleared :=
    Memory.ProxyCache.cleared_iff.mpr (hcache ▸ cleared_of_not_initialised _ hcleared)
  rw [Process.blocks, hblocks.blocks_eq, hconfigs] at hheld
  exact Finset.val_eq_zero.mp hheld

end

/-! ## A device with a proxy -/

section

attribute [local instance] ReadConfig.sizes64 wideLengths ReadConfig.KeyNumbers.inOrder Errno.linux

/-- Nothing but the proxy can be read. -/
def proxyOnly : ReadConfig.Sources where
  calloc := true
  malloc := true
  proxyCache := .empty
  rootCa := ⟨[], false⟩
  evpHubUrl := ⟨[], false⟩
  evpHubPort := ⟨[], false⟩
  iotPlatform := ⟨[], false⟩
  certKey := ⟨⟨none, none, false⟩, fun _ ↦ .unopenable⟩

/-- The agent is started, reads the host of the proxy and is shut down. -/
def readAndStopped : List Call :=
  [.initProxyCache proxySettings,
    .getConfig none proxyOnly none (ReadConfig.KeyNumbers.number (.proxy .mqttProxyHost)),
    .deinitProxyCache]

theorem calledAsMeant_readAndStopped : CalledAsMeant readAndStopped where
  paired := oneCycle.paired
  left _ _ _ _ hmem _ := by
    simp only [readAndStopped, List.mem_cons, Call.getConfig.injEq, reduceCtorEq, false_or,
      List.not_mem_nil, or_false] at hmem
    exact hmem.2.2.1

theorem performAll_holds_readAndStopped :
    ∃ process ledger, (performAll readAndStopped).run Ledger.empty = some (process, ledger) ∧
      ledger.held.val = process.cache.blocks + (process.configs.map OwnedConfig.blocks).sum := by
  obtain ⟨process, ledger, hrun, hheld, -⟩ := performAll_holds calledAsMeant_readAndStopped
  exact ⟨process, ledger, hrun, hheld⟩

end

end EdgeDeviceCore.Agent.MemoryRuns
