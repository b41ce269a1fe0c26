import EdgeDeviceCore.Notifications.Handlers

/-!
# Runs of notifications

The agent delivers one notification at a time. Between two of them other parts of the process may
set the TCP timer flag and call the elog interface, where they leave the two status bytes alone.
A run starts where the registration left the process.
-/

open EdgeDeviceCore.Elog EdgeDeviceCore.Platform EdgeDeviceCore.Semantics

namespace EdgeDeviceCore.Notifications

/-- The notifications that `notifications.c` subscribes to, with their arguments. -/
inductive Notification where
  | blobResult (event : Option BlobResult)
  | mqttSyncErr (reason : CString)
  | networkError (reason : CString)
  | agentStatus (args : Option CString) (inputs : StatusInputs)

/-- A component that the handlers do not write. -/
structure OtherComponent where
  component : BitVec 8
  ne_blobNetworkStatus : component ≠ elogEvpBlobNetworkStatus
  ne_mqttStatus : component ≠ elogEvpMqttStatus

inductive Event where
  /-- A notification is handled, at some reading of the clock. -/
  | notify (notification : Notification) (sysTime : SysTime)
  /-- `g_tcp_timer_error_timeout` is set from outside. -/
  | tcpTimerErrorTimeout
  /-- Some part of the process registers a component, possibly again. -/
  | regElog (component initValue : BitVec 8) (msg : String)
  | setELog (other : OtherComponent) (code : BitVec 8)

/-- A first registration of the two status bytes that succeeds. -/
structure FirstRegistration where
  elog : ElogState
  evpAgentNotificationSubscribe : CString → ℤ
  sysTime : SysTime
  leds : Leds
  blobNetworkStatus_new : elog.code? elogEvpBlobNetworkStatus = none
  mqttStatus_new : elog.code? elogEvpMqttStatus = none
  room : elog.table.elogArray.length + 2 ≤ maxElogEntry
  accepted : (evpAgentNotificationsRegister evpAgentNotificationSubscribe elog).1 = 0

/-- The state after the registration, with the counter and flags at their initial values. -/
def FirstRegistration.world (start : FirstRegistration) : World where
  elog := (evpAgentNotificationsRegister start.evpAgentNotificationSubscribe start.elog).2
  flags := Flags.initial
  sysTime := start.sysTime
  leds := start.leds

/-- The registration of a process that has registered nothing else, in 2025. -/
def FirstRegistration.boot : FirstRegistration where
  elog := ElogState.initial
  evpAgentNotificationSubscribe _ := 0
  sysTime := ⟨0, 125⟩
  leds _ := false
  blobNetworkStatus_new := rfl
  mqttStatus_new := rfl
  room := by decide
  accepted := by decide

variable [Errno] (utilityLogWriteELog : ℕ → UtilityLogStatus)

/-- One run of a handler on its own. -/
def World.runHandler (handler : Handler ℤ) (world : World) : World :=
  (handler.exec (World.perform utilityLogWriteELog) world).2

def World.notify (world : World) : Notification → World
  | .blobResult event => world.runHandler utilityLogWriteELog (elogHandlerBlobResult event)
  | .mqttSyncErr reason => world.runHandler utilityLogWriteELog (elogHandlerMqttSyncResult reason)
  | .networkError reason => world.runHandler utilityLogWriteELog (elogHandlerNetworkError reason)
  | .agentStatus args inputs => { world with leds := (agentStatusHandler args inputs world.leds).2 }

def World.handle (world : World) : Event → World
  | .notify notification sysTime =>
      { world with sysTime := sysTime }.notify utilityLogWriteELog notification
  | .tcpTimerErrorTimeout =>
      { world with flags := { world.flags with tcpTimerErrorTimeout := true } }
  | .regElog component initValue msg =>
      { world with elog := systemRegElog component initValue msg world.elog }
  | .setELog other code => world.setELog utilityLogWriteELog other.component code

/-- The state that a run of events leads to. -/
def run (start : FirstRegistration) (events : List Event) : World :=
  events.foldl (World.handle utilityLogWriteELog) start.world

theorem run_concat (start : FirstRegistration) (events : List Event) (event : Event) :
    run utilityLogWriteELog start (events ++ [event]) =
      (run utilityLogWriteELog start events).handle utilityLogWriteELog event :=
  List.foldl_concat _ _ _ _

end EdgeDeviceCore.Notifications
