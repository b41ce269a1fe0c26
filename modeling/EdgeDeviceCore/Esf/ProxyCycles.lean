import EdgeDeviceCore.Esf.ProxyCache

/-!
# Cycles of the proxy cache

The agent thread initialises the proxy cache and clears it again, once for every start of the
agent. What a read returns is that of the last initialisation in exactly the runs in which no port
is stored before the last operation.
-/

open EdgeDeviceCore.Platform

namespace EdgeDeviceCore.Esf

inductive CacheOp where
  | init (answers : InitAnswers)
  | deinit
deriving DecidableEq, Repr

section Cycles

variable [ProxyLengths]

/-- The cache, and whether an initialisation has succeeded since it was last cleared. -/
structure CacheState where
  cache : ProxyCache
  initialised : Bool

def CacheState.perform (state : CacheState) : CacheOp → CacheState
  | .init answers =>
      { cache := (evpAgentEsfInitProxyCache answers state.cache).2
        initialised := (evpAgentEsfInitProxyCache answers state.cache).1 = .ok () }
  | .deinit => { cache := evpAgentEsfDeinitProxyCache state.cache, initialised := false }

/-- The state after a run of operations on the cache of a new process. -/
def runCache (ops : List CacheOp) : CacheState :=
  ops.foldl CacheState.perform ⟨ProxyCache.empty, false⟩

theorem runCache_concat (ops : List CacheOp) (op : CacheOp) :
    runCache (ops ++ [op]) = (runCache ops).perform op :=
  List.foldl_concat _ _ _ _

/-- A run of operations in which a successful initialisation is followed by a deinitialisation
before the next initialisation. -/
structure CacheRun where
  ops : List CacheOp
  paired : ∀ done answers, done ++ [CacheOp.init answers] <+: ops →
    (runCache done).initialised = false

/-- A read returns `NULL` at every proxy key. -/
def Unreadable (cache : ProxyCache) : Prop :=
  ∀ key answers, readProxyText key answers cache = none

/-- Reads return what they return of another cache. -/
def SameReads (cache other : ProxyCache) : Prop :=
  ∀ key answers, readProxyText key answers cache = readProxyText key answers other

/-- A port is only read where the host is. -/
def PortNeedsHost (cache : ProxyCache) : Prop :=
  ∀ answers, ((readProxyText .mqttProxyPort answers cache).isSome →
      (readProxyText .mqttProxyHost answers cache).isSome) ∧
    ((readProxyText .httpProxyPort answers cache).isSome →
      (readProxyText .httpProxyHost answers cache).isSome)

/-- The cache reflects its last operation. -/
structure ReflectsLast (ops : List CacheOp) : Prop where
  deinit : ∀ done, done ++ [CacheOp.deinit] <+: ops →
    Unreadable (runCache (done ++ [CacheOp.deinit])).cache
  failed : ∀ done answers, done ++ [CacheOp.init answers] <+: ops →
    (evpAgentEsfInitProxyCache answers (runCache done).cache).1 ≠ .ok () →
    Unreadable (runCache (done ++ [CacheOp.init answers])).cache
  succeeded : ∀ done answers, done ++ [CacheOp.init answers] <+: ops →
    (evpAgentEsfInitProxyCache answers (runCache done).cache).1 = .ok () →
    ∃ prm, answers.loadParameter = some prm ∧
      SameReads (runCache (done ++ [CacheOp.init answers])).cache (.of prm)
  port_needs_host : ∀ done, done <+: ops → PortNeedsHost (runCache done).cache

/-- An initialisation that comes to the port succeeds and ends the run. -/
def StoresPortLast (ops : List CacheOp) : Prop :=
  ∀ done answers rest, ops = done ++ CacheOp.init answers :: rest → answers.StoresPort →
    answers.Succeeds ∧ rest = []

/-! ## Reads -/

section Reads

variable {cache : ProxyCache}

theorem isSome_readProxyText (cache : ProxyCache) (key : ProxyKey) (answers : ReadAnswers) :
    (readProxyText key answers cache).isSome =
      (answers.calloc && answers.malloc && (cache.cached key).isSome) := by
  unfold readProxyText
  cases answers.calloc <;> cases answers.malloc <;> cases cache.cached key <;> rfl

theorem unreadable_of_cleared (h : cache.Cleared) (hport : cache.port = []) : Unreadable cache := by
  obtain ⟨hhost, husername, hpassword⟩ := h
  intro key answers
  have hcached : cache.cached key = none := by
    cases key <;> simp [ProxyCache.cached, hhost, hport, husername, hpassword]
  rw [← Option.not_isSome_iff_eq_none, isSome_readProxyText, hcached]
  simp

theorem not_unreadable_of_port (h : cache.port ≠ []) : ¬ Unreadable cache := by
  intro hnone
  have hread := isSome_readProxyText cache .mqttProxyPort ⟨true, true⟩
  rw [hnone] at hread
  simp [ProxyCache.cached, h] at hread

/-- With the host cached, a port can only be read along with it. -/
theorem portNeedsHost_of (h : cache.port ≠ [] → cache.host.isSome = true) :
    PortNeedsHost cache := by
  have hcached : (cache.cached .mqttProxyPort).isSome = true → cache.host.isSome = true := by
    intro hsome
    apply h
    rintro hport
    rw [ProxyCache.cached, if_neg (not_not.mpr hport)] at hsome
    cases hsome
  intro answers
  simp only [isSome_readProxyText, Bool.and_eq_true]
  exact ⟨fun hport ↦ ⟨hport.1, hcached hport.2⟩, fun hport ↦ ⟨hport.1, hcached hport.2⟩⟩

theorem Unreadable.portNeedsHost (h : Unreadable cache) : PortNeedsHost cache := by
  intro answers
  rw [h .mqttProxyPort answers, h .httpProxyPort answers]
  exact ⟨nofun, nofun⟩

theorem SameReads.portNeedsHost {other : ProxyCache} (h : SameReads cache other)
    (hother : PortNeedsHost other) : PortNeedsHost cache := by
  intro answers
  rw [h .mqttProxyPort answers, h .httpProxyPort answers, h .mqttProxyHost answers,
    h .httpProxyHost answers]
  exact hother answers

theorem portNeedsHost_settings (prm : ProxyParameter) : PortNeedsHost (.of prm) := by
  apply portNeedsHost_of
  intro hport
  by_cases hurl : prm.url ≠ []
  · rw [ProxyCache.of, if_pos hurl]
    rfl
  · have hnil : (ProxyCache.of prm).port = [] := if_neg hurl
    exact absurd hnil hport

end Reads

/-! ## Runs -/

/-- Outside the time between a successful initialisation and the next deinitialisation the heap
strings are `NULL`. -/
theorem cleared_of_not_initialised (ops : List CacheOp)
    (h : (runCache ops).initialised = false) : (runCache ops).cache.Cleared := by
  rcases List.eq_nil_or_concat' ops with rfl | ⟨done, op, rfl⟩
  · exact ⟨rfl, rfl, rfl⟩
  · rw [runCache_concat] at h ⊢
    cases op with
    | deinit => exact cleared_deinit _
    | init answers => exact cleared_of_init_ne_ok (of_decide_eq_false h)

/-- A run stores no port unless one of its initialisations comes to the port. -/
theorem port_runCache_eq_nil {ops : List CacheOp}
    (h : ∀ answers, CacheOp.init answers ∈ ops → ¬ answers.StoresPort) :
    (runCache ops).cache.port = [] := by
  induction ops using List.reverseRecOn with
  | nil => rfl
  | append_singleton ops op ih =>
      have hops := ih fun answers hmem ↦ h answers (List.mem_append_left _ hmem)
      rw [runCache_concat]
      cases op with
      | deinit => exact hops
      | init answers =>
          have hlast := h answers (List.mem_append_right _ (List.mem_singleton_self _))
          rw [CacheState.perform, port_init_of_not_storesPort hlast]
          exact hops

/-- Where a port is stored only at the end, none is stored before the last operation. -/
theorem StoresPortLast.port_before {ops done : List CacheOp} {op : CacheOp}
    (h : StoresPortLast ops) (hdone : done ++ [op] <+: ops) : (runCache done).cache.port = [] := by
  apply port_runCache_eq_nil
  intro answers hmem hstores
  obtain ⟨before, rest, rfl⟩ := List.append_of_mem hmem
  obtain ⟨later, rfl⟩ := hdone
  have hlast := (h before answers (rest ++ [op] ++ later) (by simp) hstores).2
  simp at hlast

section Last

variable {ops done : List CacheOp} {answers : InitAnswers}

/-- A failed initialisation leaves nothing to read. -/
theorem StoresPortLast.failed (h : StoresPortLast ops)
    (hdone : done ++ [CacheOp.init answers] <+: ops)
    (hcleared : (runCache done).cache.Cleared)
    (hfailed : (evpAgentEsfInitProxyCache answers (runCache done).cache).1 ≠ .ok ()) :
    Unreadable (runCache (done ++ [CacheOp.init answers])).cache := by
  have hstores : ¬ answers.StoresPort := by
    intro hstores
    obtain ⟨rest, hops⟩ := hdone
    have hsucceeds := (h done answers rest (by rw [← hops]; simp) hstores).1
    obtain ⟨prm, -, hinit⟩ := init_of_succeeds hsucceeds hcleared
    rw [hinit] at hfailed
    exact hfailed rfl
  rw [runCache_concat]
  apply unreadable_of_cleared (cleared_of_init_ne_ok hfailed)
  rw [port_init_of_not_storesPort hstores]
  exact h.port_before hdone

/-- A successful initialisation makes the cache of its settings. -/
theorem StoresPortLast.succeeded (h : StoresPortLast ops)
    (hdone : done ++ [CacheOp.init answers] <+: ops)
    (hcleared : (runCache done).cache.Cleared)
    (hok : (evpAgentEsfInitProxyCache answers (runCache done).cache).1 = .ok ()) :
    ∃ prm, answers.loadParameter = some prm ∧
      (runCache (done ++ [CacheOp.init answers])).cache = .of prm := by
  have hsucceeds : answers.Succeeds := by
    by_contra hfails
    exact init_of_not_succeeds hfails _ hok
  obtain ⟨prm, hload, hinit⟩ := init_of_succeeds hsucceeds hcleared
  refine ⟨prm, hload, ?_⟩
  rw [runCache_concat, CacheState.perform, hinit, h.port_before hdone]
  rfl

theorem StoresPortLast.deinit (h : StoresPortLast ops) (hdone : done ++ [CacheOp.deinit] <+: ops) :
    Unreadable (runCache (done ++ [CacheOp.deinit])).cache := by
  rw [runCache_concat]
  exact unreadable_of_cleared (cleared_deinit _) (h.port_before hdone)

end Last

/-- A port that is read after another operation, or after a failure, is stale. -/
theorem ReflectsLast.storesPortLast (run : CacheRun) (h : ReflectsLast run.ops) :
    StoresPortLast run.ops := by
  intro done answers rest hops hstores
  have hinit : done ++ [CacheOp.init answers] <+: run.ops := by
    rw [hops]
    exact ⟨rest, by simp⟩
  have hport : (runCache (done ++ [CacheOp.init answers])).cache.port ≠ [] := by
    rw [runCache_concat]
    exact port_init_of_storesPort hstores _
  have hok : (evpAgentEsfInitProxyCache answers (runCache done).cache).1 = .ok () := by
    by_contra hfailed
    exact not_unreadable_of_port hport (h.failed done answers hinit hfailed)
  constructor
  · by_contra hsucceeds
    exact init_of_not_succeeds hsucceeds _ hok
  · cases rest with
    | nil => rfl
    | cons next rest =>
        have hnext : done ++ [CacheOp.init answers] ++ [next] <+: run.ops := by
          rw [hops]
          exact ⟨rest, by simp⟩
        cases next with
        | init later =>
            have hpaired := run.paired _ later hnext
            rw [runCache_concat] at hpaired
            exact absurd hok (of_decide_eq_false hpaired)
        | deinit =>
            have hunreadable := h.deinit _ hnext
            rw [runCache_concat] at hunreadable
            exact absurd hunreadable (not_unreadable_of_port hport)

theorem StoresPortLast.reflectsLast (run : CacheRun) (h : StoresPortLast run.ops) :
    ReflectsLast run.ops := by
  have hcleared {done : List CacheOp} {answers : InitAnswers}
      (hdone : done ++ [CacheOp.init answers] <+: run.ops) : (runCache done).cache.Cleared :=
    cleared_of_not_initialised done (run.paired done answers hdone)
  have hsucceeded (done : List CacheOp) (answers : InitAnswers)
      (hdone : done ++ [CacheOp.init answers] <+: run.ops)
      (hok : (evpAgentEsfInitProxyCache answers (runCache done).cache).1 = .ok ()) :
      ∃ prm, answers.loadParameter = some prm ∧
        SameReads (runCache (done ++ [CacheOp.init answers])).cache (.of prm) := by
    obtain ⟨prm, hload, hcache⟩ := h.succeeded hdone (hcleared hdone) hok
    exact ⟨prm, hload, fun key answers ↦ by rw [hcache]⟩
  refine ⟨fun done hdone ↦ h.deinit hdone,
    fun done answers hdone hfailed ↦ h.failed hdone (hcleared hdone) hfailed, hsucceeded, ?_⟩
  intro done hdone
  rcases List.eq_nil_or_concat' done with rfl | ⟨done, op, rfl⟩
  · exact portNeedsHost_of fun hport ↦ absurd rfl hport
  · cases op with
    | deinit => exact (h.deinit hdone).portNeedsHost
    | init answers =>
        by_cases hok : (evpAgentEsfInitProxyCache answers (runCache done).cache).1 = .ok ()
        · obtain ⟨prm, -, hreads⟩ := hsucceeded done answers hdone hok
          exact hreads.portNeedsHost (portNeedsHost_settings prm)
        · exact (h.failed hdone (hcleared hdone) hok).portNeedsHost

/-- **The cache reflects its last operation** in exactly the runs that store a port at most in
their last operation, a successful initialisation. -/
theorem reflectsLast_iff (run : CacheRun) : ReflectsLast run.ops ↔ StoresPortLast run.ops :=
  ⟨ReflectsLast.storesPortLast run, StoresPortLast.reflectsLast run⟩

end Cycles

/-! ## A device with a proxy -/

/-- Lengths with room for every port number. -/
@[reducible]
def wideLengths : ProxyLengths := ⟨256, 6, 33, 33, by decide⟩

/-- The settings of a proxy without authentication. -/
def proxySettings : InitAnswers where
  malloc := true
  loadParameter := some ⟨"proxy.local".toList, 8080, [], []⟩
  strdupUrl := true
  strdupUsername := true
  strdupPassword := true

/-- The agent is started and shut down once. -/
def oneCycle : @CacheRun wideLengths :=
  @CacheRun.mk wideLengths [.init proxySettings, .deinit] (by
    intro done answers hdone
    obtain ⟨rest, hops⟩ := hdone
    match done with
    | [] => rfl
    | [first] => simp at hops
    | first :: second :: done => simp at hops)

/-- After the shutdown the port is still there. -/
theorem not_reflectsLast_oneCycle :
    ¬ @ReflectsLast wideLengths (@CacheRun.ops wideLengths oneCycle) := by
  intro h
  have hunreadable :=
    @ReflectsLast.deinit wideLengths _ h [.init proxySettings] (List.prefix_refl _)
  have hread := hunreadable .mqttProxyPort ⟨true, true⟩
  exact absurd hread (by decide)

end EdgeDeviceCore.Esf
