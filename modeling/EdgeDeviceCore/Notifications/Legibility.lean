import EdgeDeviceCore.Notifications.Simulation

/-!
# The in-band error value

A read of an unregistered component returns `ELOG_ERR`, which is a byte like any code, and the
handlers return early when they read it. Once the components are registered no handler reads it or
writes it: the blob field of the one status byte never has all bits set, and bit 0 of the other is
never set.
-/

open EdgeDeviceCore.Elog EdgeDeviceCore.Platform EdgeDeviceCore.Semantics
open AtomicProgram

namespace EdgeDeviceCore.Notifications

/-- A table in which the registration stores its three components for the first time, with any
counter, flags and surroundings, and any answers to its subscriptions. -/
structure FirstStored where
  elog : ElogState
  evpAgentNotificationSubscribe : CString → ℤ
  flags : Flags
  sysTime : SysTime
  leds : Leds
  blobNetworkStatus_new : elog.code? elogEvpBlobNetworkStatus = none
  mqttStatus_new : elog.code? elogEvpMqttStatus = none
  wasmStatus_new : elog.code? elogEvpWasmStatus = none
  room : elog.table.elogArray.length + 3 ≤ maxElogEntry

theorem code?_initial (component : BitVec 8) : ElogState.initial.code? component = none := rfl

theorem room_initial : ElogState.initial.table.elogArray.length + 3 ≤ maxElogEntry := by decide

/-- The start of a process, with an empty table. -/
instance : Inhabited FirstStored where
  default := {
    elog := ElogState.initial
    evpAgentNotificationSubscribe := fun _ ↦ 0
    flags := Flags.initial
    sysTime := ⟨0, 0⟩
    leds := fun _ ↦ false
    blobNetworkStatus_new := code?_initial _
    mqttStatus_new := code?_initial _
    wasmStatus_new := code?_initial _
    room := room_initial }

def FirstStored.world (start : FirstStored) : World where
  elog := (evpAgentNotificationsRegister start.evpAgentNotificationSubscribe start.elog).2
  flags := start.flags
  sysTime := start.sysTime
  leds := start.leds

/-- The events of a run, with any settings of `g_tcp_timer_error_timeout`. -/
inductive TimedEvent where
  | event (event : Event)
  | setTcpTimerErrorTimeout (value : Bool)

variable [Errno] (utilityLogWriteELog : ℕ → UtilityLogStatus)

def World.handleTimed (world : World) : TimedEvent → World
  | .event event => world.handle utilityLogWriteELog event
  | .setTcpTimerErrorTimeout value =>
      { world with flags := { world.flags with tcpTimerErrorTimeout := value } }

def runTimed (start : FirstStored) (events : List TimedEvent) : World :=
  events.foldl (World.handleTimed utilityLogWriteELog) start.world

/-- The handler that a notification runs; that of `agent/status` has no part in the elog. -/
def Notification.handler : Notification → Handler ℤ
  | .blobResult event => elogHandlerBlobResult event
  | .mqttSyncErr reason => elogHandlerMqttSyncResult reason
  | .networkError reason => elogHandlerNetworkError reason
  | .agentStatus _ _ => pure 0

/-- An access to the elog that neither reads nor writes `ELOG_ERR`. -/
def AvoidsElogErr : (op : HandlerOp) → op.Reply → Prop
  | .getELog _, code => code ≠ elogErr
  | .setELog _ code, _ => code ≠ elogErr
  | _, _ => True

/-! ## The operations -/

section Operations

variable (world : World)

@[simp]
theorem repliesMeet_getELog (component : BitVec 8) :
    (getELog component).RepliesMeet (World.perform utilityLogWriteELog) AvoidsElogErr world ↔
      systemGetELog component world.elog ≠ elogErr :=
  iff_of_eq (and_true _)

@[simp]
theorem repliesMeet_setELog (component code : BitVec 8) :
    (setELog component code).RepliesMeet (World.perform utilityLogWriteELog) AvoidsElogErr world ↔
      code ≠ elogErr :=
  iff_of_eq (and_true _)

@[simp]
theorem repliesMeet_readFlag {Value : Type} (flag : Flags → Value) :
    (readFlag flag).RepliesMeet (World.perform utilityLogWriteELog) AvoidsElogErr world :=
  ⟨trivial, trivial⟩

@[simp]
theorem repliesMeet_writeFlag (update : Flags → Flags) :
    (writeFlag update).RepliesMeet (World.perform utilityLogWriteELog) AvoidsElogErr world :=
  ⟨trivial, trivial⟩

@[simp]
theorem repliesMeet_writeFlagIf (condition : Bool) (update : Flags → Flags) :
    (writeFlagIf condition update).RepliesMeet (World.perform utilityLogWriteELog) AvoidsElogErr
      world := by
  cases condition with
  | false => exact trivial
  | true => exact ⟨trivial, trivial⟩

theorem repliesMeet_checkSysTime :
    checkSysTime.RepliesMeet (World.perform utilityLogWriteELog) AvoidsElogErr world := by
  rw [checkSysTime, repliesMeet_bind]
  refine ⟨⟨trivial, trivial⟩, ?_⟩
  rw [repliesMeet_bind]
  exact ⟨repliesMeet_writeFlagIf .., trivial⟩

theorem repliesMeet_noteReason (event : Option CString) :
    (noteReason event).RepliesMeet (World.perform utilityLogWriteELog) AvoidsElogErr world := by
  cases event with
  | none => exact trivial
  | some reason =>
      rw [noteReason, repliesMeet_bind]
      exact ⟨repliesMeet_writeFlagIf .., repliesMeet_writeFlagIf ..⟩

end Operations

/-! ## The handlers -/

namespace Simulates

variable {world : World} {monitor : Monitor} (h : Simulates world monitor)

include h

theorem repliesMeet_blobResult (notif : BlobResult) :
    (elogHandlerBlobResult (some notif)).RepliesMeet (World.perform utilityLogWriteELog)
      AvoidsElogErr world := by
  have hread := monitor.blobNetwork.encode_ne_elogErr
  obtain ⟨result, httpStatus, error⟩ := notif
  cases result with
  | success =>
      have hcode : replaceBlobOperation (1#8 <<< 6) (monitor.blobNetwork.encode &&& ~~~0x1#8) ≠
          elogErr := by
        rw [clearSslTimeout_encode, replaceBlobOperation_encode _ _ .success (by decide)]
        exact BlobNetworkStatus.encode_ne_elogErr _
      simp only [elogHandlerBlobResult, elogHandlerBlobSuccess, repliesMeet_bind,
        repliesMeet_getELog, exec_getELog, h.getBlobNetwork, repliesMeet_setELog]
      exact ⟨⟨hread, hcode, trivial⟩, trivial⟩
  | errorHttp =>
      have hcode : replaceBlobOperation (2#8 <<< 6 ||| httpStatusBits httpStatus)
          monitor.blobNetwork.encode ≠ elogErr := by
        rw [replaceBlobOperation_encode _ _ _ (httpStatusBits_field httpStatus)]
        exact BlobNetworkStatus.encode_ne_elogErr _
      simp only [elogHandlerBlobResult, elogHandlerBlobHttpError, repliesMeet_bind,
        repliesMeet_getELog, exec_getELog, h.getBlobNetwork, if_neg hread, repliesMeet_setELog]
      exact ⟨⟨hread, hcode⟩, trivial⟩
  | error | other kind =>
      have hcode : replaceBlobOperation (3#8 <<< 6 ||| errorBits error)
          monitor.blobNetwork.encode ≠ elogErr := by
        rw [replaceBlobOperation_encode _ _ _ (errorBits_field error)]
        exact BlobNetworkStatus.encode_ne_elogErr _
      simp only [elogHandlerBlobResult, elogHandlerBlobOtherError, repliesMeet_bind,
        repliesMeet_getELog, exec_getELog, h.getBlobNetwork, if_neg hread, repliesMeet_setELog]
      exact ⟨⟨hread, hcode, trivial⟩, trivial⟩

theorem repliesMeet_networkError (reason : CString) :
    (elogHandlerNetworkError reason).RepliesMeet (World.perform utilityLogWriteELog)
      AvoidsElogErr world := by
  have hread := monitor.blobNetwork.encode_ne_elogErr
  rw [elogHandlerNetworkError, repliesMeet_bind, repliesMeet_getELog, exec_getELog,
    h.getBlobNetwork, if_neg hread, repliesMeet_bind, repliesMeet_setELog]
  refine ⟨hread, ?_, trivial⟩
  split
  · rw [setSslTimeout_encode]
    exact BlobNetworkStatus.encode_ne_elogErr _
  · exact hread

theorem repliesMeet_mqttSyncSuccess :
    elogHandlerMqttSyncSuccess.RepliesMeet (World.perform utilityLogWriteELog)
      AvoidsElogErr world := by
  have hblobNetwork := monitor.blobNetwork.encode_ne_elogErr
  have hmqtt := monitor.mqtt.encode_ne_elogErr
  rw [elogHandlerMqttSyncSuccess, repliesMeet_bind, repliesMeet_getELog, exec_getELog,
    h.getMqtt, if_neg hmqtt, reportRecovery, repliesMeet_bind, repliesMeet_getELog, exec_getELog,
    h.getBlobNetwork, if_neg hblobNetwork]
  refine ⟨hmqtt, hblobNetwork, ?_⟩
  simp [h.flags, recoveredMqttCode_encode, recoveredBlobNetworkCode_encode,
    MqttStatus.encode_ne_elogErr, BlobNetworkStatus.encode_ne_elogErr]

theorem repliesMeet_mqttSyncFail (reason : CString) :
    (elogHandlerMqttSyncFail (some reason)).RepliesMeet (World.perform utilityLogWriteELog)
      AvoidsElogErr world := by
  have hmqtt := monitor.mqtt.encode_ne_elogErr
  rw [elogHandlerMqttSyncFail, repliesMeet_bind, repliesMeet_getELog, exec_getELog, h.getMqtt,
    if_neg hmqtt]
  refine ⟨hmqtt, ?_⟩
  rw [repliesMeet_bind]
  refine ⟨repliesMeet_checkSysTime utilityLogWriteELog world, ?_⟩
  rw [repliesMeet_bind]
  refine ⟨repliesMeet_noteReason utilityLogWriteELog _ _, ?_⟩
  rw [repliesMeet_bind, repliesMeet_bind]
  refine ⟨repliesMeet_readFlag .., ?_, ?_⟩
  · split
    · simp [clearMqttFields, clearedMqttCode_encode, MqttStatus.encode_ne_elogErr]
    · exact trivial
  · simp

theorem repliesMeet_handler (notification : Notification) :
    notification.handler.RepliesMeet (World.perform utilityLogWriteELog) AvoidsElogErr world := by
  cases notification with
  | agentStatus args inputs => exact trivial
  | networkError reason => exact h.repliesMeet_networkError utilityLogWriteELog reason
  | blobResult event =>
      cases event with
      | none => exact trivial
      | some notif => exact h.repliesMeet_blobResult utilityLogWriteELog notif
  | mqttSyncErr reason =>
      rw [Notification.handler, elogHandlerMqttSyncResult, repliesMeet_bind]
      refine ⟨?_, trivial⟩
      split
      · exact h.repliesMeet_mqttSyncSuccess utilityLogWriteELog
      · exact h.repliesMeet_mqttSyncFail utilityLogWriteELog reason

end Simulates

/-! ## Runs -/

/-- After every run the stored bytes encode the fields of their formats. -/
theorem exists_simulates_runTimed (start : FirstStored) (events : List TimedEvent) :
    ∃ monitor, Simulates (runTimed utilityLogWriteELog start events) monitor := by
  induction events using List.reverseRecOn with
  | nil =>
      have hroom : start.elog.table.elogArray.length + 2 ≤ maxElogEntry := by
        have h := start.room
        omega
      obtain ⟨hblobNetwork, hmqtt⟩ :=
        code?_regElogs start.blobNetworkStatus_new start.mqttStatus_new hroom
      have h : Simulates { start.world with flags := Flags.initial } Monitor.initial :=
        ⟨hblobNetwork, hmqtt, rfl⟩
      exact ⟨_, h.setFlags start.flags⟩
  | append_singleton events event ih =>
      obtain ⟨monitor, h⟩ := ih
      rw [runTimed, List.foldl_concat]
      cases event with
      | event event => exact ⟨_, h.handle utilityLogWriteELog event⟩
      | setTcpTimerErrorTimeout value => exact ⟨_, h.setFlags _⟩

/-- **The error value is unreachable.** After every run both status bytes are registered with codes
other than `ELOG_ERR`, and no notification makes its handler read it or write it. -/
theorem elogErr_unreachable (start : FirstStored) (events : List TimedEvent) :
    let world := runTimed utilityLogWriteELog start events
    (∃ code, world.elog.code? elogEvpBlobNetworkStatus = some code ∧ code ≠ elogErr) ∧
      (∃ code, world.elog.code? elogEvpMqttStatus = some code ∧ code ≠ elogErr) ∧
      ∀ (notification : Notification) (sysTime : SysTime),
        notification.handler.RepliesMeet (World.perform utilityLogWriteELog) AvoidsElogErr
          { world with sysTime := sysTime } := by
  intro world
  obtain ⟨monitor, h⟩ := exists_simulates_runTimed utilityLogWriteELog start events
  have hclock (sysTime : SysTime) : Simulates { world with sysTime := sysTime } monitor :=
    ⟨h.blobNetwork, h.mqtt, h.flags⟩
  exact ⟨⟨_, h.blobNetwork, monitor.blobNetwork.encode_ne_elogErr⟩,
    ⟨_, h.mqtt, monitor.mqtt.encode_ne_elogErr⟩, fun notification sysTime ↦
      (hclock sysTime).repliesMeet_handler utilityLogWriteELog notification⟩

end EdgeDeviceCore.Notifications
