import EdgeDeviceCore.Esf.EvpTls
import EdgeDeviceCore.Platform.CString

/-!
# The agent status handler of `notifications.c`

The handler of `agent/status` turns the connection state of the agent into the status of the
service LED. What it reads from the system manager and the parameter storage, and what the LED
manager answers, are inputs of one call.
-/

open EdgeDeviceCore.Platform

namespace EdgeDeviceCore.Notifications

/-- The connection statuses of the service LED, in the order of `EvpAgentLedIndex`. -/
inductive LedStatus where
  | connectedWithTLS
  | connectedWithoutTLS
  | disconnectedConnectingWithTLS
  | disconnectedConnectingWithoutTLS
deriving DecidableEq, Repr

/-- The LED manager: which statuses of the service LED are enabled. -/
abbrev Leds := LedStatus → Bool

/-- What one call of the handler reads. A value that cannot be read, for want of memory or because
its getter fails, is `none`. -/
structure StatusInputs where
  mqttHost : Option CString
  projectId : Option CString
  registerToken : Option CString
  evpTls : Option Esf.EvpTlsValue
  /-- Whether `EsfLedManagerSetStatus` succeeds for a status. -/
  ledManagerAccepts : LedStatus → Bool

def provisioningServiceUrl : CString := "provision.aitrios.sony-semicon.com".toList

def StatusInputs.evpAgentEsfIsTlsEnabled (inputs : StatusInputs) : Bool :=
  Esf.evpAgentEsfIsTlsEnabled inputs.evpTls

def StatusInputs.checkProvisioningServiceMqttHost (inputs : StatusInputs) : Bool :=
  match inputs.mqttHost with
  | some value => strcmp value provisioningServiceUrl = 0
  | none => false

def StatusInputs.checkProjectIdAndRegisterTokenValid (inputs : StatusInputs) : Bool :=
  match inputs.projectId with
  | none => false
  | some projectId =>
      match inputs.registerToken with
      | none => false
      | some registerToken => !projectId.isEmpty && !registerToken.isEmpty

def StatusInputs.isEnrollmentMode (inputs : StatusInputs) : Bool :=
  inputs.checkProvisioningServiceMqttHost || inputs.checkProjectIdAndRegisterTokenValid

/-- The loop over `led_status`: statuses are set in order until the LED manager refuses one. -/
def setLedStatuses (accepts : LedStatus → Bool) : List (LedStatus × Bool) → Leds → ℤ × Leds
  | [], leds => (0, leds)
  | (status, enabled) :: rest, leds =>
      if accepts status then setLedStatuses accepts rest (Function.update leds status enabled)
      else (-1, leds)

/-- `led_status` with one status enabled. -/
def ledStatusInfo (enabled : LedStatus) : List (LedStatus × Bool) :=
  [.connectedWithTLS, .connectedWithoutTLS, .disconnectedConnectingWithTLS,
    .disconnectedConnectingWithoutTLS].map fun status ↦ (status, status = enabled)

def agentStatusHandler (args : Option CString) (inputs : StatusInputs) (leds : Leds) : ℤ × Leds :=
  match args with
  | none => (-1, leds)
  | some agentStatus =>
      if strcmp agentStatus "connected".toList = 0 then
        if inputs.isEnrollmentMode then
          (0, leds)
        else if inputs.evpAgentEsfIsTlsEnabled then
          setLedStatuses inputs.ledManagerAccepts (ledStatusInfo .connectedWithTLS) leds
        else
          setLedStatuses inputs.ledManagerAccepts (ledStatusInfo .connectedWithoutTLS) leds
      else if strcmp agentStatus "disconnected".toList = 0 then
        if inputs.evpAgentEsfIsTlsEnabled then
          setLedStatuses inputs.ledManagerAccepts (ledStatusInfo .disconnectedConnectingWithTLS) leds
        else
          setLedStatuses inputs.ledManagerAccepts
            (ledStatusInfo .disconnectedConnectingWithoutTLS) leds
      else
        (-1, leds)

end EdgeDeviceCore.Notifications
