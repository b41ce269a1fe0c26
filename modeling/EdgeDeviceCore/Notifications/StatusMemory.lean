import EdgeDeviceCore.Esf.ConfigMemory
import EdgeDeviceCore.Notifications.AgentStatus

/-!
# The memory of the agent status handler

The handler of `agent/status` reads the MQTT host as a configuration value and the project ID and
the register token into memory of its own, to find out whether the device is in enrollment mode. All
of it is given back, whatever fails on the way.
-/

open EdgeDeviceCore.Esf EdgeDeviceCore.Esf.Memory EdgeDeviceCore.Platform
open EdgeDeviceCore.Semantics.Resources

namespace EdgeDeviceCore.Notifications.StatusMemory

/-- What `check_project_id_and_register_token_valid` is answered. A value is `none` where its getter
fails. -/
structure EnrollmentAnswers where
  mallocProjectId : Bool
  projectId : Option CString
  mallocRegisterToken : Bool
  registerToken : Option CString

def checkProjectIdAndRegisterTokenValid (answers : EnrollmentAnswers) :
    Program Memory.Resource Bool := do
  match ← tryAcquire .block answers.mallocProjectId with
  | none =>
      free none
      free none
      pure false
  | some projectId =>
      match answers.projectId with
      | none =>
          free projectId
          free none
          pure false
      | some projectIdText =>
          match ← tryAcquire .block answers.mallocRegisterToken with
          | none =>
              free projectId
              free none
              pure false
          | some registerToken =>
              match answers.registerToken with
              | none =>
                  free projectId
                  free registerToken
                  pure false
              | some registerTokenText => do
                  use projectId
                  use registerToken
                  free projectId
                  free registerToken
                  pure (!projectIdText.isEmpty && !registerTokenText.isEmpty)

section

variable [Errno] [ReadConfig.MaxSizes] [ReadConfig.KeyNumbers]

def checkProvisioningServiceMqttHost (sources : ReadConfig.Sources) (left : Option OwnedString)
    (cache : Memory.ProxyCache) : Program Memory.Resource Bool := do
  match ← Memory.evpAgentEsfReadConfig sources left cache (ReadConfig.KeyNumbers.number .mqttHost)
    with
  | some cfg =>
      use cfg.valueBlock
      let isProvisioningService : Bool :=
        strcmp (readString cfg.config.value) provisioningServiceUrl = 0
      free cfg.valueBlock
      free cfg.block
      pure isProvisioningService
  | none => pure false

def isEnrollmentMode (sources : ReadConfig.Sources) (left : Option OwnedString)
    (cache : Memory.ProxyCache) (answers : EnrollmentAnswers) : Program Memory.Resource Bool := do
  if ← checkProvisioningServiceMqttHost sources left cache then pure true
  else checkProjectIdAndRegisterTokenValid answers

/-! ## What is held -/

/-- The values that the functions without memory are given. -/
structure Reads (sources : ReadConfig.Sources) (cache : Memory.ProxyCache)
    (answers : EnrollmentAnswers) (inputs : StatusInputs) : Prop where
  mqttHost : inputs.mqttHost = (ReadConfig.evpAgentEsfReadConfig (withCache sources cache)
    (ReadConfig.KeyNumbers.number .mqttHost)).config.map fun config ↦ readString config.value
  projectId : inputs.projectId = if answers.mallocProjectId then answers.projectId else none
  registerToken :
    inputs.registerToken = if answers.mallocRegisterToken then answers.registerToken else none

variable {sources : ReadConfig.Sources} {left : Option OwnedString} {cache : Memory.ProxyCache}
  {answers : EnrollmentAnswers} {inputs : StatusInputs}

theorem exists_reads (sources : ReadConfig.Sources) (cache : Memory.ProxyCache)
    (answers : EnrollmentAnswers) : ∃ inputs, Reads sources cache answers inputs := by
  obtain ⟨mqttHost, hhost⟩ : ∃ mqttHost, mqttHost =
      (ReadConfig.evpAgentEsfReadConfig (withCache sources cache)
        (ReadConfig.KeyNumbers.number .mqttHost)).config.map fun config ↦ readString config.value :=
    ⟨_, rfl⟩
  exact ⟨⟨mqttHost, _, _, none, fun _ ↦ true⟩, hhost, rfl, rfl⟩

theorem triple_checkProvisioningServiceMqttHost (h : Reads sources cache answers inputs) :
    Triple cache.blocks (checkProvisioningServiceMqttHost sources left cache) fun result rest ↦
      result = inputs.checkProvisioningServiceMqttHost ∧ rest = cache.blocks := by
  -- The host is not read from a file.
  have hleft : ReachesFailedAsprintf sources (ReadConfig.KeyNumbers.number .mqttHost) →
      left = none := by
    rintro ⟨clientKey, hkey, -⟩
    cases ReadConfig.KeyNumbers.number_injective hkey
  apply (triple_readConfig hleft).bind
  rintro result rest ⟨hconfig, rfl⟩
  rw [StatusInputs.checkProvisioningServiceMqttHost, h.mqttHost, ← hconfig]
  cases result with
  | none => exact Triple.pure ⟨rfl, add_zero _⟩
  | some cfg =>
      have hblocks : cache.blocks + returnedBlocks (some cfg) =
          cache.blocks + {cfg.block} + {cfg.valueBlock} := by
        rw [returnedBlocks, Option.elim_some, OwnedConfig.blocks, ← add_assoc, add_right_comm]
      rw [hblocks]
      apply Triple.use_bind (by simp)
      apply triple_free
      apply triple_free
      exact Triple.pure ⟨rfl, rfl⟩

omit [Errno] [ReadConfig.MaxSizes] [ReadConfig.KeyNumbers] in
theorem triple_checkProjectIdAndRegisterTokenValid {own : Multiset (Handle Memory.Resource)}
    (hprojectId : inputs.projectId = if answers.mallocProjectId then answers.projectId else none)
    (hregisterToken :
      inputs.registerToken = if answers.mallocRegisterToken then answers.registerToken else none) :
    Triple own (checkProjectIdAndRegisterTokenValid answers) fun result rest ↦
      result = inputs.checkProjectIdAndRegisterTokenValid ∧ rest = own := by
  rw [StatusInputs.checkProjectIdAndRegisterTokenValid, hprojectId, hregisterToken]
  apply Triple.tryAcquire_bind
  intro projectId hmalloc
  rw [← hmalloc]
  cases projectId with
  | none => exact Triple.pure ⟨rfl, add_zero _⟩
  | some projectId =>
      cases answers.projectId with
      | none =>
          apply triple_free
          exact Triple.pure ⟨rfl, rfl⟩
      | some projectIdText =>
          apply Triple.tryAcquire_bind
          intro registerToken hmallocToken
          rw [← hmallocToken]
          cases registerToken with
          | none =>
              rw [owned_none, add_zero]
              apply triple_free
              exact Triple.pure ⟨rfl, rfl⟩
          | some registerToken =>
              cases answers.registerToken with
              | none =>
                  rw [owned_some, owned_some, add_right_comm]
                  apply triple_free
                  apply triple_free
                  exact Triple.pure ⟨rfl, rfl⟩
              | some registerTokenText =>
                  rw [owned_some, owned_some, add_right_comm]
                  apply Triple.use_bind (by simp)
                  apply Triple.use_bind (by simp)
                  apply triple_free
                  apply triple_free
                  exact Triple.pure ⟨rfl, rfl⟩

/-- The mode is the one without memory, and everything is given back. -/
theorem triple_isEnrollmentMode (h : Reads sources cache answers inputs) :
    Triple cache.blocks (isEnrollmentMode sources left cache answers) fun result rest ↦
      result = inputs.isEnrollmentMode ∧ rest = cache.blocks := by
  apply (triple_checkProvisioningServiceMqttHost h).bind
  rintro result rest ⟨rfl, rfl⟩
  rw [StatusInputs.isEnrollmentMode]
  cases inputs.checkProvisioningServiceMqttHost with
  | true => exact Triple.pure ⟨rfl, rfl⟩
  | false => exact triple_checkProjectIdAndRegisterTokenValid h.projectId h.registerToken

end

end EdgeDeviceCore.Notifications.StatusMemory
