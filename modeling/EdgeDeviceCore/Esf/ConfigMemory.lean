import EdgeDeviceCore.Esf.CertKeyMemory
import EdgeDeviceCore.Esf.Config
import EdgeDeviceCore.Esf.ProxyMemory

/-!
# The memory of configuration values

`evp_agent_esf_read_config` with the blocks that it acquires: on every path it gives back all but
the two blocks of the value that it returns, unless a failed `asprintf` leaves a pointer behind.
-/

open EdgeDeviceCore.Platform EdgeDeviceCore.Data
open EdgeDeviceCore.Semantics.Resources

namespace EdgeDeviceCore.Esf.Memory

/-- A `struct config` with its own block and that of its value. -/
structure OwnedConfig where
  block : Handle Resource
  valueBlock : Handle Resource
  config : ReadConfig.Config

def OwnedConfig.blocks (config : OwnedConfig) : Multiset (Handle Resource) :=
  {config.valueBlock} + {config.block}

/-- The blocks of what a call returns. -/
def returnedBlocks (config : Option OwnedConfig) : Multiset (Handle Resource) :=
  config.elim 0 OwnedConfig.blocks

/-- A string is read, if it is not `NULL`. -/
def useString : Option OwnedString → Program Resource Unit
  | none => pure ()
  | some string => use string.pointer

section

variable [Errno] [ReadConfig.MaxSizes]

/-- The sources of a call that finds a cache. -/
def withCache (sources : ReadConfig.Sources) (cache : ProxyCache) : ReadConfig.Sources :=
  { sources with proxyCache := cache.data }

/-- The switch over the key. The getters of the platform hold nothing afterwards. -/
def fillBuffer (sources : ReadConfig.Sources) (left : Option OwnedString) (cache : ProxyCache)
    (key : Option ReadConfig.SizedKey) (maxSize : ℕ) (buffer : Buffer Char) :
    Program Resource (Bool × Buffer Char) :=
  match key with
  | some (.proxy key) => do
      useString (cache.string key)
      pure (ReadConfig.fillBuffer (withCache sources cache) (some (.proxy key)) maxSize buffer)
  | some (.client key) => do
      let (ret, buffer) ← readCertKey sources.certKey left key buffer (maxSize + 1)
      pure (ret = 0, buffer)
  | key => pure (ReadConfig.fillBuffer (withCache sources cache) key maxSize buffer)

def evpAgentEsfReadConfig [ReadConfig.KeyNumbers] (sources : ReadConfig.Sources)
    (left : Option OwnedString) (cache : ProxyCache) (key : ℕ) :
    Program Resource (Option OwnedConfig) :=
  match ReadConfig.gMaxSizes[key]? with
  | none => pure none
  | some maxSize => do
      match ← tryAcquire .block sources.calloc with
      | none => pure none
      | some buf =>
          let (isSuccess, buffer) ← fillBuffer sources left cache (ReadConfig.named key) maxSize
            (.filled (maxSize + 1) ReadConfig.nul)
          if isSuccess then
            match ← tryAcquire .block sources.malloc with
            | some config =>
                pure (some ⟨config, buf, ⟨key, buffer.cells, strlen buffer.cells + 1⟩⟩)
            | none =>
                free buf
                pure none
          else
            free buf
            pure none

/-! ## What is held -/

theorem triple_fillBuffer {sources : ReadConfig.Sources} {left : Option OwnedString}
    (cache : ProxyCache) {key : Option ReadConfig.SizedKey} (maxSize : ℕ) (buffer : Buffer Char)
    (hleft : ∀ clientKey, key = some (.client clientKey) →
      FailedAsprintf sources.certKey.path clientKey → left = none) :
    Triple cache.blocks (fillBuffer sources left cache key maxSize buffer) fun result rest ↦
      result = ReadConfig.fillBuffer (withCache sources cache) key maxSize buffer ∧
        rest = cache.blocks := by
  have hplain {key : Option ReadConfig.SizedKey} :
      Triple cache.blocks
        (pure (ReadConfig.fillBuffer (withCache sources cache) key maxSize buffer))
        fun result rest ↦
          result = ReadConfig.fillBuffer (withCache sources cache) key maxSize buffer ∧
            rest = cache.blocks :=
    Triple.pure ⟨rfl, rfl⟩
  cases key with
  | none => exact hplain
  | some sized =>
      cases sized with
      | proxy key =>
          rw [fillBuffer]
          cases hstring : cache.string key with
          | none => exact hplain
          | some string =>
              exact Triple.use_bind (ProxyCache.mem_blocks_of_string hstring) hplain
      | client key =>
          have hframe := (triple_readCertKey buffer (maxSize + 1) (hleft key rfl)).frame cache.blocks
          rw [zero_add] at hframe
          apply hframe.bind
          rintro result rest ⟨own, rfl, rfl, rfl⟩
          exact Triple.pure ⟨rfl, zero_add _⟩
      | tlsCaCert => exact hplain
      | mqttTlsCaCert => exact hplain
      | httpsCaCert => exact hplain
      | mqttHost => exact hplain
      | mqttPort => exact hplain
      | iotPlatform => exact hplain

variable [ReadConfig.KeyNumbers]

/-- A call that reads a client certificate or key comes to an `asprintf` that fails. -/
def ReachesFailedAsprintf (sources : ReadConfig.Sources) (key : ℕ) : Prop :=
  ∃ clientKey, key = ReadConfig.KeyNumbers.number (.client clientKey) ∧
    sources.calloc = true ∧ FailedAsprintf sources.certKey.path clientKey

/-- A call returns what the function without memory returns, and holds the blocks of that. -/
def Returns (sources : ReadConfig.Sources) (cache : ProxyCache) (key : ℕ)
    (result : Option OwnedConfig) (rest : Multiset (Handle Resource)) : Prop :=
  result.map OwnedConfig.config =
      (ReadConfig.evpAgentEsfReadConfig (withCache sources cache) key).config ∧
    rest = cache.blocks + returnedBlocks result

/-- What a call returns, by its buffer. -/
theorem config_of_fillBuffer {sources : ReadConfig.Sources} {key maxSize : ℕ}
    (hsize : ReadConfig.gMaxSizes[key]? = some maxSize) {isSuccess : Bool} {buffer : Buffer Char}
    (hfill : ReadConfig.fillBuffer sources (ReadConfig.named key) maxSize
      (.filled (maxSize + 1) ReadConfig.nul) = (isSuccess, buffer)) :
    (ReadConfig.evpAgentEsfReadConfig sources key).config =
      if sources.calloc && isSuccess && sources.malloc then
        some (ReadConfig.Config.mk key buffer.cells (strlen buffer.cells + 1))
      else none := by
  unfold ReadConfig.evpAgentEsfReadConfig
  rw [hsize]
  dsimp only
  rw [hfill]
  cases sources.calloc <;> cases isSuccess <;> cases sources.malloc <;> rfl

/-- On every path a call gives back all but the blocks of the value that it returns. -/
theorem triple_readConfig {sources : ReadConfig.Sources} {left : Option OwnedString}
    {cache : ProxyCache} {key : ℕ} (hleft : ReachesFailedAsprintf sources key → left = none) :
    Triple cache.blocks (evpAgentEsfReadConfig sources left cache key)
      (Returns sources cache key) := by
  unfold evpAgentEsfReadConfig
  cases hsize : ReadConfig.gMaxSizes[key]? with
  | none =>
      apply Triple.pure
      unfold Returns ReadConfig.evpAgentEsfReadConfig
      rw [hsize]
      exact ⟨rfl, (add_zero _).symm⟩
  | some maxSize =>
      apply Triple.tryAcquire_bind
      intro buf hcalloc
      cases buf with
      | none =>
          apply Triple.pure
          rw [Returns, config_of_fillBuffer hsize rfl,
            show (withCache sources cache).calloc = false from hcalloc.symm]
          exact ⟨rfl, rfl⟩
      | some buf =>
          have hclient : ∀ clientKey, ReadConfig.named key = some (.client clientKey) →
              FailedAsprintf sources.certKey.path clientKey → left = none :=
            fun clientKey hkey hfails ↦
              hleft ⟨clientKey, ReadConfig.eq_number_of_named hkey, hcalloc.symm, hfails⟩
          apply ((triple_fillBuffer cache maxSize _ hclient).frame {buf}).bind
          rintro ⟨isSuccess, buffer⟩ rest ⟨own, rfl, hresult, rfl⟩
          have hconfig := config_of_fillBuffer hsize hresult.symm
          rw [show (withCache sources cache).calloc = true from hcalloc.symm,
            show (withCache sources cache).malloc = sources.malloc from rfl, Bool.true_and]
            at hconfig
          dsimp only
          cases isSuccess with
          | false =>
              rw [if_neg Bool.false_ne_true]
              apply triple_free
              exact Triple.pure ⟨hconfig.symm, (add_zero _).symm⟩
          | true =>
              rw [if_pos rfl]
              apply Triple.tryAcquire_bind
              intro config hmalloc
              rw [← hmalloc] at hconfig
              cases config with
              | some config => exact Triple.pure ⟨hconfig.symm, add_assoc _ _ _⟩
              | none =>
                  rw [owned_none, add_zero]
                  apply triple_free
                  exact Triple.pure ⟨hconfig.symm, (add_zero _).symm⟩

/-- A pointer that a failed `asprintf` left behind is freed, although it is not held. -/
theorem run_readConfig_failed {sources : ReadConfig.Sources} {key : ℕ}
    (h : ReachesFailedAsprintf sources key) {left : OwnedString} {ledger : Ledger Resource}
    (hheld : left.pointer ∉ ledger.held) (hgiven : left.pointer.number < ledger.next)
    (cache : ProxyCache) :
    (evpAgentEsfReadConfig sources (some left) cache key).run ledger = none := by
  obtain ⟨clientKey, rfl, hcalloc, hfails⟩ := h
  have hbuf : left.pointer ∉ (ledger.acquire Resource.block).held := by
    rw [Ledger.acquire, Finset.mem_cons, not_or]
    exact ⟨fun heq ↦ hgiven.ne (congrArg Handle.number heq), hheld⟩
  have halloc : (tryAcquire Resource.block true).run ledger =
      some (some ⟨.block, ledger.next⟩, ledger.acquire .block) := rfl
  unfold evpAgentEsfReadConfig
  rw [ReadConfig.gMaxSizes_number]
  dsimp only
  rw [hcalloc, StateT.run_bind, halloc, ReadConfig.named_number]
  simp only [Option.bind_eq_bind, Option.bind_some]
  rw [StateT.run_bind, fillBuffer, StateT.run_bind, run_readCertKey_failed hfails hbuf]
  rfl

/-- Calls are safe exactly where no failed `asprintf` leaves a pointer behind. -/
theorem triple_readConfig_iff {sources : ReadConfig.Sources} {left : Option OwnedString}
    {key : ℕ} :
    (∀ cache : ProxyCache, Triple cache.blocks (evpAgentEsfReadConfig sources left cache key)
      (Returns sources cache key)) ↔ (ReachesFailedAsprintf sources key → left = none) := by
  constructor
  · intro h hreaches
    by_contra hleft
    obtain ⟨string, rfl⟩ := Option.ne_none_iff_exists'.mp hleft
    -- A ledger that has given the number of the pointer and holds nothing.
    obtain ⟨result, after, hrun, -⟩ :=
      (h ProxyCache.empty).exists_run ⟨∅, string.pointer.number + 1, nofun⟩ rfl
    rw [run_readConfig_failed hreaches (Finset.notMem_empty _) (Nat.lt_succ_self _)] at hrun
    cases hrun
  · exact fun hleft _ ↦ triple_readConfig hleft

/-- `get_config_impl` of `config.c`. -/
def getConfigImpl (getEvpTls : Option EvpTlsValue) (sources : ReadConfig.Sources)
    (left : Option OwnedString) (cache : ProxyCache) (key : ℕ) :
    Program Resource (Option OwnedConfig) :=
  if (key = ReadConfig.KeyNumbers.number (.client .mqttTlsClientKey) ∨
      key = ReadConfig.KeyNumbers.number (.client .mqttTlsClientCert) ∨
      key = ReadConfig.KeyNumbers.number .mqttTlsCaCert) ∧
      evpAgentEsfIsTlsEnabled getEvpTls = false then pure none
  else evpAgentEsfReadConfig sources left cache key

theorem triple_getConfig {getEvpTls : Option EvpTlsValue} {sources : ReadConfig.Sources}
    {left : Option OwnedString} {cache : ProxyCache} {key : ℕ}
    (hleft : ReachesFailedAsprintf sources key → left = none) :
    Triple cache.blocks (getConfigImpl getEvpTls sources left cache key) fun result rest ↦
      result.map OwnedConfig.config =
          (ReadConfig.getConfigImpl getEvpTls (withCache sources cache) key).config ∧
        rest = cache.blocks + returnedBlocks result := by
  rw [getConfigImpl, ReadConfig.getConfigImpl]
  split_ifs
  · exact Triple.pure ⟨rfl, (add_zero _).symm⟩
  · exact triple_readConfig hleft

end

end EdgeDeviceCore.Esf.Memory
