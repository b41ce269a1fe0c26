import EdgeDeviceCore.Elog.Uniqueness
import EdgeDeviceCore.Notifications.Handlers

/-!
# Registrations of a restarted agent

Every start of the agent calls `evp_agent_notifications_register`, which registers its three
components again. As long as the table has room, the second registration leaves three entries that
no look-up reaches, and the components keep the codes of the run before.
-/

open EdgeDeviceCore.Elog EdgeDeviceCore.Platform

namespace EdgeDeviceCore.Notifications

/-- A call that registers components or sets their codes. -/
inductive RegistryCall where
  | elog (call : ElogCall)
  | notificationsRegister (evpAgentNotificationSubscribe : CString → ℤ)

/-- The calls of the elog interface that a call makes. -/
def RegistryCall.elogCalls : RegistryCall → List ElogCall
  | .elog call => [call]
  | .notificationsRegister _ =>
      [.reg elogEvpBlobNetworkStatus 0x40#8 "EVP Block Warning.",
        .reg elogEvpMqttStatus 0x0#8 "EVP Block Warning 2.",
        .reg elogEvpWasmStatus 0x0#8 "EVP Block Warning 3."]

def RegistryCall.IsStartup (call : RegistryCall) : Prop :=
  ∃ evpAgentNotificationSubscribe, call = .notificationsRegister evpAgentNotificationSubscribe

/-- The components of the agent, with the codes that it registers them with. -/
def agentComponents : List (BitVec 8 × BitVec 8) :=
  [(elogEvpBlobNetworkStatus, 0x40#8), (elogEvpMqttStatus, 0x0#8), (elogEvpWasmStatus, 0x0#8)]

variable [Errno] (utilityLogWriteELog : ℕ → UtilityLogStatus)

def RegistryCall.perform (state : ElogState) : RegistryCall → ElogState
  | .elog call => state.perform utilityLogWriteELog call
  | .notificationsRegister evpAgentNotificationSubscribe =>
      (evpAgentNotificationsRegister evpAgentNotificationSubscribe state).2

/-- The state after a run of calls from the empty table. -/
def runRegistry (calls : List RegistryCall) : ElogState :=
  calls.foldl (RegistryCall.perform utilityLogWriteELog) ElogState.initial

theorem runRegistry_concat (calls : List RegistryCall) (call : RegistryCall) :
    runRegistry utilityLogWriteELog (calls ++ [call]) =
      call.perform utilityLogWriteELog (runRegistry utilityLogWriteELog calls) :=
  List.foldl_concat _ _ _ _

theorem perform_eq_foldl (call : RegistryCall) (state : ElogState) :
    call.perform utilityLogWriteELog state =
      call.elogCalls.foldl (ElogState.perform utilityLogWriteELog) state := by
  cases call <;> rfl

/-- A run is the run of the elog calls that it makes. -/
theorem runRegistry_eq (calls : List RegistryCall) :
    runRegistry utilityLogWriteELog calls =
      runCalls utilityLogWriteELog (calls.flatMap RegistryCall.elogCalls) := by
  rw [runCalls, List.foldl_flatMap]
  have hperform : RegistryCall.perform utilityLogWriteELog = fun state call ↦
      call.elogCalls.foldl (ElogState.perform utilityLogWriteELog) state := by
    funext state call
    exact perform_eq_foldl utilityLogWriteELog call state
  rw [runRegistry, hperform]

/-- A start after an earlier one. -/
structure Restart (done : List RegistryCall) (startup : RegistryCall)
    (calls : List RegistryCall) : Prop where
  run : done ++ [startup] <+: calls
  isStartup : startup.IsStartup
  earlier : ∃ call ∈ done, call.IsStartup

/-- Components are unique along the run. A restart takes no slot, and those components of the agent
that are registered have their initial codes after it. -/
structure ComponentsUnique (calls : List RegistryCall) : Prop where
  elog : KeepsComponentsUnique utilityLogWriteELog (calls.flatMap RegistryCall.elogCalls)
  no_slots : ∀ done startup, Restart done startup calls →
    (runRegistry utilityLogWriteELog (done ++ [startup])).table.elogArray.length =
      (runRegistry utilityLogWriteELog done).table.elogArray.length
  initial_codes : ∀ done startup, Restart done startup calls → ∀ component ∈ agentComponents,
    component.1 ∈ (runRegistry utilityLogWriteELog done).components →
    systemGetELog component.1 (runRegistry utilityLogWriteELog (done ++ [startup])) = component.2

/-- A restart finds those components of the agent that are registered at their initial codes. -/
def RestartsAtInitialCodes (calls : List RegistryCall) : Prop :=
  ∀ done startup, Restart done startup calls → ∀ component ∈ agentComponents,
    component.1 ∈ (runRegistry utilityLogWriteELog done).components →
    systemGetELog component.1 (runRegistry utilityLogWriteELog done) = component.2

variable {calls done : List RegistryCall} {startup : RegistryCall}

theorem settled_foldl (elogCalls : List ElogCall) {component : BitVec 8} {state : ElogState}
    (h : state.Settled component) :
    (elogCalls.foldl (ElogState.perform utilityLogWriteELog) state).Settled component := by
  induction elogCalls generalizing state with
  | nil => exact h
  | cons call elogCalls ih => exact ih (settled_perform utilityLogWriteELog call h)

/-- Once the agent was started, its first component is registered or the table is full. -/
theorem settled_of_startup (h : ∃ call ∈ done, call.IsStartup) :
    (runRegistry utilityLogWriteELog done).Settled elogEvpBlobNetworkStatus := by
  induction done using List.reverseRecOn with
  | nil =>
      obtain ⟨call, hcall, -⟩ := h
      cases hcall
  | append_singleton done last ih =>
      rw [runRegistry_concat, perform_eq_foldl]
      obtain ⟨call, hcall, hstartup⟩ := h
      rcases List.mem_append.mp hcall with hdone | hlast
      · exact settled_foldl utilityLogWriteELog _ (ih ⟨call, hdone, hstartup⟩)
      · obtain rfl := List.mem_singleton.mp hlast
        obtain ⟨evpAgentNotificationSubscribe, rfl⟩ := hstartup
        rw [RegistryCall.elogCalls, List.foldl_cons]
        exact settled_foldl utilityLogWriteELog _ (settled_systemRegElog _ _ _ _)

/-- When only new components are registered, a restart finds the table full, and changes nothing. -/
theorem runRegistry_restart
    (hnew : RegistersOnlyNew utilityLogWriteELog (calls.flatMap RegistryCall.elogCalls))
    (h : Restart done startup calls) :
    runRegistry utilityLogWriteELog (done ++ [startup]) = runRegistry utilityLogWriteELog done := by
  obtain ⟨evpAgentNotificationSubscribe, rfl⟩ := h.isStartup
  have hfull : maxElogEntry ≤ (runRegistry utilityLogWriteELog done).table.elogArray.length := by
    rcases settled_of_startup utilityLogWriteELog h.earlier with hmem | hfull
    · by_contra hroom
      have hflat : (done.flatMap RegistryCall.elogCalls) ++
          [.reg elogEvpBlobNetworkStatus 0x40#8 "EVP Block Warning."] <+:
          calls.flatMap RegistryCall.elogCalls := by
        obtain ⟨rest, rfl⟩ := h.run
        rw [List.append_assoc, List.flatMap_append, List.prefix_append_right_inj]
        exact ⟨_, rfl⟩
      have hnone := hnew _ _ _ _ ⟨hflat, by rw [← runRegistry_eq]; exact Nat.not_le.mp hroom⟩
      rw [← runRegistry_eq] at hnone
      exact code?_eq_none_iff_not_mem.mp hnone hmem
    · exact hfull
  rw [runRegistry_concat, RegistryCall.perform, evpAgentNotificationsRegister, regElogs]
  simp only [systemRegElog_of_full _ _ hfull]

/-- **Registration keeps components unique**, across any number of starts of the agent, along just
those runs that register only new components and restart the agent only when its components are at
their initial codes. -/
theorem componentsUnique_iff (calls : List RegistryCall) :
    ComponentsUnique utilityLogWriteELog calls ↔
      RegistersOnlyNew utilityLogWriteELog (calls.flatMap RegistryCall.elogCalls) ∧
        RestartsAtInitialCodes utilityLogWriteELog calls := by
  constructor
  · intro h
    have hnew := (keepsComponentsUnique_iff utilityLogWriteELog).mp h.elog
    refine ⟨hnew, fun done startup hrestart component hcomponent hmem ↦ ?_⟩
    have hcode := h.initial_codes done startup hrestart component hcomponent hmem
    rwa [runRegistry_restart utilityLogWriteELog hnew hrestart] at hcode
  · rintro ⟨hnew, hcodes⟩
    constructor
    · exact (keepsComponentsUnique_iff utilityLogWriteELog).mpr hnew
    · intro done startup hrestart
      rw [runRegistry_restart utilityLogWriteELog hnew hrestart]
    · intro done startup hrestart component hcomponent hmem
      rw [runRegistry_restart utilityLogWriteELog hnew hrestart]
      exact hcodes done startup hrestart component hcomponent hmem

/-- The agent is started, reports an error, and is started again. -/
def restartedAgent : List RegistryCall :=
  [.notificationsRegister fun _ ↦ 0, .elog (.set elogEvpMqttStatus 0x18#8),
    .notificationsRegister fun _ ↦ 0]

omit [Errno] in
/-- The restart takes three more slots, and the MQTT status keeps the code of the first run. -/
theorem not_componentsUnique_restartedAgent :
    ¬ @ComponentsUnique Errno.linux (fun _ ↦ .ok) restartedAgent := by
  intro h
  have hrestart : Restart (restartedAgent.take 2) (.notificationsRegister fun _ ↦ 0)
      restartedAgent :=
    ⟨List.prefix_refl _, ⟨_, rfl⟩, _, List.mem_cons_self .., _, rfl⟩
  have hslots := @ComponentsUnique.no_slots Errno.linux _ _ h _ _ hrestart
  exact absurd hslots (by decide)

end EdgeDeviceCore.Notifications
