import EdgeDeviceCore.Notifications.Monitor

/-!
# The handlers implement the monitor

Each handler, run on its own in a state whose two status bytes encode a monitor, stores the bytes
of the monitor's next state and leaves its flags.
-/

open EdgeDeviceCore.Elog EdgeDeviceCore.Platform EdgeDeviceCore.Semantics
open AtomicProgram

namespace EdgeDeviceCore.Notifications

/-! ## The masks act on the fields -/

section Masks

variable (blobNetwork : BlobNetworkStatus) (mqtt : MqttStatus)

theorem replaceBlobOperation_encode (tmp : BitVec 8) (operation : BlobOperation)
    (h : tmp.extractLsb' 2 6 = operation.field) :
    replaceBlobOperation tmp blobNetwork.encode =
      { blobNetwork with blobOperation := operation }.encode := by
  apply BitVec.eq_of_getLsbD_eq
  intro bit hbit
  rw [replaceBlobOperation, BitVec.getLsbD_or, BitVec.getLsbD_and, BitVec.getLsbD_and,
    BlobNetworkStatus.getLsbD_encode, BlobNetworkStatus.getLsbD_encode, ← h]
  interval_cases bit <;> simp

theorem clearSslTimeout_encode :
    blobNetwork.encode &&& ~~~0x1#8 = { blobNetwork with sslTimeout := false }.encode := by
  apply BitVec.eq_of_getLsbD_eq
  intro bit hbit
  rw [BitVec.getLsbD_and, BlobNetworkStatus.getLsbD_encode, BlobNetworkStatus.getLsbD_encode]
  interval_cases bit <;> simp

theorem setSslTimeout_encode :
    blobNetwork.encode ||| 0x01#8 = { blobNetwork with sslTimeout := true }.encode := by
  apply BitVec.eq_of_getLsbD_eq
  intro bit hbit
  rw [BitVec.getLsbD_or, BlobNetworkStatus.getLsbD_encode, BlobNetworkStatus.getLsbD_encode]
  interval_cases bit <;> simp

theorem recoveredBlobNetworkCode_encode (flags : Flags) :
    recoveredBlobNetworkCode blobNetwork.encode flags.tcpTimerErrorTimeout =
      (blobNetwork.noteRecovery flags).encode := by
  apply BitVec.eq_of_getLsbD_eq
  intro bit hbit
  rw [recoveredBlobNetworkCode, BlobNetworkStatus.getLsbD_encode, BlobNetworkStatus.noteRecovery]
  cases flags.tcpTimerErrorTimeout with
  | false =>
      rw [if_neg Bool.false_ne_true, BitVec.getLsbD_and, BlobNetworkStatus.getLsbD_encode]
      interval_cases bit <;> simp
  | true =>
      rw [if_pos rfl, BitVec.getLsbD_or, BlobNetworkStatus.getLsbD_encode]
      interval_cases bit <;> simp

/-- Bits that are set where a flag is up. -/
theorem getLsbD_orIf (flag : Bool) (code mask : BitVec 8) (bit : ℕ) :
    (if flag then code ||| mask else code).getLsbD bit =
      (code.getLsbD bit || flag && mask.getLsbD bit) := by
  cases flag <;> simp

/-- Bits that are cleared where a flag is up. -/
theorem getLsbD_andNotIf (flag : Bool) (code mask : BitVec 8) (bit : ℕ) :
    (if flag then code &&& ~~~mask else code).getLsbD bit =
      (code.getLsbD bit && !(flag && mask.getLsbD bit)) := by
  cases flag with
  | false => simp
  | true =>
      rw [if_pos rfl, BitVec.getLsbD_and, BitVec.getLsbD_not, Bool.true_and]
      by_cases hbit : bit < 8
      · simp [hbit]
      · simp [BitVec.getLsbD_of_ge code bit (by omega)]

theorem recoveredMqttCode_encode (flags : Flags) :
    recoveredMqttCode mqtt.encode flags.mqttReconnectCnt flags.mqttSyncErrorRecvBufferTooSmall
        flags.mqttSyncErrorSendBufferIsFull flags.mqttSyncErrorInvalidTime =
      (mqtt.noteRecovery flags).encode := by
  obtain ⟨cnt, recv, send, invalid, tcp⟩ := flags
  apply BitVec.eq_of_getLsbD_eq
  intro bit hbit
  rw [MqttStatus.getLsbD_encode, MqttStatus.noteRecovery]
  cases invalid <;>
    simp only [recoveredMqttCode, if_true, Bool.false_eq_true, if_false, BitVec.getLsbD_or,
      BitVec.getLsbD_and, getLsbD_orIf, MqttStatus.getLsbD_encode] <;>
    interval_cases bit <;>
    simp [mqttReconnectCntMask, mqttReconnectCntShift, mqttErrRecvBuffMask, mqttErrSendBuffMask,
      invalidTimeMask]

theorem clearedMqttCode_encode (flags : Flags) :
    clearedMqttCode mqtt.encode flags.mqttSyncErrorRecvBufferTooSmall
        flags.mqttSyncErrorSendBufferIsFull =
      (mqtt.noteFirstFailure flags).encode := by
  obtain ⟨cnt, recv, send, invalid, tcp⟩ := flags
  apply BitVec.eq_of_getLsbD_eq
  intro bit hbit
  rw [MqttStatus.getLsbD_encode, MqttStatus.noteFirstFailure]
  simp only [clearedMqttCode, BitVec.getLsbD_and, getLsbD_andNotIf, MqttStatus.getLsbD_encode]
  interval_cases bit <;>
    simp [mqttReconnectCntMask, mqttErrRecvBuffMask, mqttErrSendBuffMask]

end Masks

/-! ## The switches follow the rows -/

theorem httpStatusBits_field (status : BitVec 32) :
    ((2#8 <<< 6) ||| httpStatusBits status).extractLsb' 2 6 =
      (BlobOperation.failByHttp status).field := by
  simp only [httpStatusBits, BlobOperation.failByHttp, httpStatusClass, httpStatusRows]
  split <;> simp_all

/-- A row is looked up before the rows after it. -/
theorem getD_map_find?_cons {Row Value : Type} (found : Row → Bool) (value : Row → Value)
    (absent : Value) (row : Row) (rows : List Row) :
    (((row :: rows).find? found).map value).getD absent =
      if found row = true then value row else ((rows.find? found).map value).getD absent := by
  rw [List.find?_cons]
  cases found row <;> rfl

theorem errorBits_eq [Errno] (error : ℤ) :
    errorBits error = (errnoClass error).setWidth 8 <<< 2 := by
  simp only [errnoClass, errnoRows, getD_map_find?_cons, decide_eq_true_eq,
    apply_ite fun row : BitVec 4 ↦ row.setWidth 8 <<< 2]
  rfl

theorem errorBits_field [Errno] (error : ℤ) :
    ((3#8 <<< 6) ||| errorBits error).extractLsb' 2 6 =
      (BlobOperation.failByOthers error).field := by
  have hrow : ∀ row : BitVec 4, ((3#8 <<< 6) ||| row.setWidth 8 <<< 2).extractLsb' 2 6 =
      0b11#2 ++ row := by decide
  rw [errorBits_eq]
  exact hrow (errnoClass error)

/-! ## The handlers -/

/-- The checks of a failure raise the flags that the monitor raises. -/
theorem exec_noteFailure [Errno] (utilityLogWriteELog : ℕ → UtilityLogStatus) (world : World)
    (reason : CString) :
    ((do let _ ← checkSysTime; noteReason (some reason)).exec
        (World.perform utilityLogWriteELog) world).2 =
      { world with flags := world.flags.noteFailure reason world.sysTime } := by
  have hrecv : CString.Proper "MQTT_ERROR_RECV_BUFFER_TOO_SMALL".toList := by decide
  have hsend : CString.Proper "MQTT_ERROR_SEND_BUFFER_IS_FULL".toList := by decide
  simp only [checkSysTime, noteReason, exec_bind, exec_clockGettime, exec_writeFlagIf, pure_eq_done,
    exec_done, decide_strncmp_eq_startsWith reason hrecv, decide_strncmp_eq_startsWith reason hsend,
    Flags.noteFailure]
  cases world.sysTime.isInvalidTime <;>
    cases reason.startsWith "MQTT_ERROR_RECV_BUFFER_TOO_SMALL" <;>
    cases reason.startsWith "MQTT_ERROR_SEND_BUFFER_IS_FULL" <;> simp

/-- The stored bytes of a world encode the fields of a monitor, which has the world's flags. -/
structure Simulates (world : World) (monitor : Monitor) : Prop where
  blobNetwork : world.elog.code? elogEvpBlobNetworkStatus = some monitor.blobNetwork.encode
  mqtt : world.elog.code? elogEvpMqttStatus = some monitor.mqtt.encode
  flags : world.flags = monitor.flags

namespace Simulates

variable {world : World} {monitor : Monitor} (h : Simulates world monitor)

include h

theorem getBlobNetwork :
    systemGetELog elogEvpBlobNetworkStatus world.elog = monitor.blobNetwork.encode := by
  rw [systemGetELog_eq, h.blobNetwork]
  rfl

theorem getMqtt : systemGetELog elogEvpMqttStatus world.elog = monitor.mqtt.encode := by
  rw [systemGetELog_eq, h.mqtt]
  rfl

theorem setFlags (flags : Flags) :
    Simulates { world with flags := flags } { monitor with flags := flags } :=
  ⟨h.blobNetwork, h.mqtt, rfl⟩

theorem regElog (component initValue : BitVec 8) (msg : String) :
    Simulates { world with elog := systemRegElog component initValue msg world.elog } monitor :=
  ⟨code?_systemRegElog_of_some initValue msg h.blobNetwork,
    code?_systemRegElog_of_some initValue msg h.mqtt, h.flags⟩

variable [Errno] (utilityLogWriteELog : ℕ → UtilityLogStatus)

theorem setBlobNetwork (status : BlobNetworkStatus) :
    Simulates (world.setELog utilityLogWriteELog elogEvpBlobNetworkStatus status.encode)
      { monitor with blobNetwork := status } where
  blobNetwork := by rw [World.setELog, code?_systemSetELog, if_pos rfl, h.blobNetwork]; rfl
  mqtt := by rw [World.setELog, code?_systemSetELog, if_neg (by decide), h.mqtt]
  flags := h.flags

theorem setMqtt (status : MqttStatus) :
    Simulates (world.setELog utilityLogWriteELog elogEvpMqttStatus status.encode)
      { monitor with mqtt := status } where
  blobNetwork := by rw [World.setELog, code?_systemSetELog, if_neg (by decide), h.blobNetwork]
  mqtt := by rw [World.setELog, code?_systemSetELog, if_pos rfl, h.mqtt]; rfl
  flags := h.flags

theorem setOther (other : OtherComponent) (code : BitVec 8) :
    Simulates (world.setELog utilityLogWriteELog other.component code) monitor where
  blobNetwork := by
    rw [World.setELog, code?_systemSetELog, if_neg other.ne_blobNetworkStatus.symm, h.blobNetwork]
  mqtt := by rw [World.setELog, code?_systemSetELog, if_neg other.ne_mqttStatus.symm, h.mqtt]
  flags := h.flags

theorem runHandler_blobSuccess :
    world.runHandler utilityLogWriteELog elogHandlerBlobSuccess =
      world.setELog utilityLogWriteELog elogEvpBlobNetworkStatus
        { monitor.blobNetwork with blobOperation := .success, sslTimeout := false }.encode := by
  have hcode : replaceBlobOperation (1#8 <<< 6) (monitor.blobNetwork.encode &&& ~~~0x1#8) =
      { monitor.blobNetwork with blobOperation := .success, sslTimeout := false }.encode := by
    rw [clearSslTimeout_encode, replaceBlobOperation_encode _ _ .success (by decide)]
  simp only [World.runHandler, elogHandlerBlobSuccess, exec_bind, exec_getELog, h.getBlobNetwork,
    exec_setELog, hcode]
  rfl

theorem runHandler_blobHttpError (status : BitVec 32) :
    world.runHandler utilityLogWriteELog (elogHandlerBlobHttpError status) =
      world.setELog utilityLogWriteELog elogEvpBlobNetworkStatus
        { monitor.blobNetwork with blobOperation := .failByHttp status }.encode := by
  have hcode := replaceBlobOperation_encode monitor.blobNetwork _ _ (httpStatusBits_field status)
  simp only [World.runHandler, elogHandlerBlobHttpError, exec_bind, exec_getELog,
    h.getBlobNetwork, BlobNetworkStatus.encode_ne_elogErr, if_false, exec_setELog, hcode]

theorem runHandler_blobOtherError (error : ℤ) :
    world.runHandler utilityLogWriteELog (elogHandlerBlobOtherError error) =
      world.setELog utilityLogWriteELog elogEvpBlobNetworkStatus
        { monitor.blobNetwork with blobOperation := .failByOthers error }.encode := by
  have hcode := replaceBlobOperation_encode monitor.blobNetwork _ _ (errorBits_field error)
  simp only [World.runHandler, elogHandlerBlobOtherError, exec_bind, exec_getELog,
    h.getBlobNetwork, BlobNetworkStatus.encode_ne_elogErr, if_false, exec_setELog, hcode]
  rfl

theorem runHandler_blobResult (notif : BlobResult) :
    world.runHandler utilityLogWriteELog (elogHandlerBlobResult (some notif)) =
      world.setELog utilityLogWriteELog elogEvpBlobNetworkStatus
        (monitor.blobNetwork.noteResult notif).encode := by
  obtain ⟨result, httpStatus, error⟩ := notif
  simp only [World.runHandler, elogHandlerBlobResult, exec_bind]
  cases result with
  | success =>
      refine (h.runHandler_blobSuccess utilityLogWriteELog).trans ?_
      simp [BlobNetworkStatus.noteResult, BlobOperation.ofResult]
  | errorHttp =>
      refine (h.runHandler_blobHttpError utilityLogWriteELog httpStatus).trans ?_
      simp [BlobNetworkStatus.noteResult, BlobOperation.ofResult]
  | error =>
      refine (h.runHandler_blobOtherError utilityLogWriteELog error).trans ?_
      simp [BlobNetworkStatus.noteResult, BlobOperation.ofResult]
  | other kind =>
      refine (h.runHandler_blobOtherError utilityLogWriteELog error).trans ?_
      simp [BlobNetworkStatus.noteResult, BlobOperation.ofResult]

theorem runHandler_networkError (reason : CString) :
    world.runHandler utilityLogWriteELog (elogHandlerNetworkError reason) =
      world.setELog utilityLogWriteELog elogEvpBlobNetworkStatus
        (monitor.blobNetwork.noteNetworkError reason).encode := by
  have hproper : CString.Proper "ssl_timeout".toList := by decide
  have hcheck := strncmp_eq_zero_iff_startsWith reason hproper
  have hcode : (if strncmp reason "ssl_timeout".toList "ssl_timeout".toList.length = 0 then
        monitor.blobNetwork.encode ||| 0x01#8 else monitor.blobNetwork.encode) =
      (monitor.blobNetwork.noteNetworkError reason).encode := by
    rw [setSslTimeout_encode, BlobNetworkStatus.noteNetworkError]
    simp only [hcheck]
    cases reason.startsWith "ssl_timeout" <;> simp
  simp only [World.runHandler, elogHandlerNetworkError, exec_bind, exec_getELog, h.getBlobNetwork,
    BlobNetworkStatus.encode_ne_elogErr, if_false, exec_setELog, hcode]
  rfl

/-- The report is made over the MQTT status that was read, which need not be the stored one. -/
theorem runHandler_reportRecovery (mqtt : MqttStatus) :
    world.runHandler utilityLogWriteELog (reportRecovery mqtt.encode) =
      (World.setELog utilityLogWriteELog elogEvpMqttStatus (mqtt.noteRecovery monitor.flags).encode
        { world with flags := Flags.initial }).setELog utilityLogWriteELog elogEvpBlobNetworkStatus
        (monitor.blobNetwork.noteRecovery monitor.flags).encode := by
  simp [World.runHandler, reportRecovery, h.getBlobNetwork, BlobNetworkStatus.encode_ne_elogErr,
    ← recoveredMqttCode_encode, ← recoveredBlobNetworkCode_encode, h.flags, Flags.initial]

theorem runHandler_mqttSyncSuccess :
    world.runHandler utilityLogWriteELog elogHandlerMqttSyncSuccess =
      (World.setELog utilityLogWriteELog elogEvpMqttStatus
        (monitor.mqtt.noteRecovery monitor.flags).encode
        { world with flags := Flags.initial }).setELog utilityLogWriteELog elogEvpBlobNetworkStatus
        (monitor.blobNetwork.noteRecovery monitor.flags).encode := by
  rw [← h.runHandler_reportRecovery utilityLogWriteELog monitor.mqtt]
  simp only [World.runHandler, elogHandlerMqttSyncSuccess, exec_bind, exec_getELog, h.getMqtt,
    if_neg (MqttStatus.encode_ne_elogErr _)]

theorem runHandler_mqttSyncFail (reason : CString) :
    world.runHandler utilityLogWriteELog (elogHandlerMqttSyncFail (some reason)) =
      { (if monitor.flags.mqttReconnectCnt = 0 then
          world.setELog utilityLogWriteELog elogEvpMqttStatus
            (monitor.mqtt.noteFirstFailure (monitor.flags.noteFailure reason world.sysTime)).encode
        else world) with
        flags := (monitor.flags.noteFailure reason world.sysTime).countFailure } := by
  have hnote := exec_noteFailure utilityLogWriteELog world reason
  have hcnt : (monitor.flags.noteFailure reason world.sysTime).mqttReconnectCnt =
      monitor.flags.mqttReconnectCnt := rfl
  simp only [exec_bind] at hnote
  simp only [World.runHandler, elogHandlerMqttSyncFail, exec_bind, exec_getELog, h.getMqtt,
    MqttStatus.encode_ne_elogErr, if_false, hnote, exec_readFlag, h.flags, hcnt]
  -- the first failure of an outage also stores a cleared byte
  by_cases hfirst : monitor.flags.mqttReconnectCnt = 0
  · simp only [if_pos hfirst]
    simp [hcnt, clearMqttFields, clearedMqttCode_encode, Flags.countFailure, World.setELog]
  · simp only [if_neg hfirst]
    simp [hcnt, Flags.countFailure]

omit h in
theorem runHandler_mqttSyncResult (reason : CString) :
    world.runHandler utilityLogWriteELog (elogHandlerMqttSyncResult reason) =
      if reason.startsWith "MQTT_OK" then
        world.runHandler utilityLogWriteELog elogHandlerMqttSyncSuccess
      else
        world.runHandler utilityLogWriteELog (elogHandlerMqttSyncFail (some reason)) := by
  have hproper : CString.Proper "MQTT_OK".toList := by decide
  have hcheck := strncmp_eq_zero_iff_startsWith reason hproper
  simp only [World.runHandler, elogHandlerMqttSyncResult, exec_bind, hcheck]
  split <;> rfl

/-! ## Runs -/

theorem handle (event : Event) :
    Simulates (world.handle utilityLogWriteELog event) (monitor.step event) := by
  cases event with
  | tcpTimerErrorTimeout =>
      rw [World.handle, h.flags]
      exact h.setFlags _
  | regElog component initValue msg => exact h.regElog component initValue msg
  | setELog other code => exact h.setOther utilityLogWriteELog other code
  | notify notification sysTime =>
      have hclock : Simulates { world with sysTime := sysTime } monitor := ⟨h.1, h.2, h.3⟩
      cases notification with
      | agentStatus args inputs => exact ⟨h.1, h.2, h.3⟩
      | networkError reason =>
          simp only [World.handle, World.notify,
            hclock.runHandler_networkError utilityLogWriteELog reason]
          exact hclock.setBlobNetwork utilityLogWriteELog _
      | blobResult event =>
          cases event with
          | none => exact hclock
          | some notif =>
              simp only [World.handle, World.notify,
                hclock.runHandler_blobResult utilityLogWriteELog notif]
              exact hclock.setBlobNetwork utilityLogWriteELog _
      | mqttSyncErr reason =>
          simp only [World.handle, World.notify, runHandler_mqttSyncResult, Monitor.step,
            Monitor.notify]
          split
          · rw [hclock.runHandler_mqttSyncSuccess utilityLogWriteELog]
            exact ((hclock.setFlags Flags.initial).setMqtt utilityLogWriteELog _).setBlobNetwork
              utilityLogWriteELog _
          · rw [hclock.runHandler_mqttSyncFail utilityLogWriteELog reason, Monitor.fail]
            split
            · exact (hclock.setMqtt utilityLogWriteELog _).setFlags _
            · exact hclock.setFlags _

end Simulates

/-- A registration stores the initial codes of components that are new, as long as slots last. -/
theorem code?_regElogs {elog : ElogState}
    (hblobNetwork : elog.code? elogEvpBlobNetworkStatus = none)
    (hmqtt : elog.code? elogEvpMqttStatus = none)
    (hroom : elog.table.elogArray.length + 2 ≤ maxElogEntry) :
    (regElogs elog).code? elogEvpBlobNetworkStatus = some 0x40#8 ∧
      (regElogs elog).code? elogEvpMqttStatus = some 0x0#8 := by
  have hfirst : elog.table.elogArray.length < maxElogEntry := by omega
  have hblob : (systemRegElog elogEvpBlobNetworkStatus 0x40#8 "EVP Block Warning."
      elog).code? elogEvpBlobNetworkStatus = some 0x40#8 := by
    rw [code?_systemRegElog, hblobNetwork, if_pos ⟨hfirst, rfl⟩, Option.none_or]
  have hlength : (systemRegElog elogEvpBlobNetworkStatus 0x40#8 "EVP Block Warning."
      elog).table.elogArray.length < maxElogEntry := by
    rw [systemRegElog_of_room _ _ hfirst]
    simp only [ElogTable.push, List.length_append, List.length_singleton]
    omega
  have hsecond : (systemRegElog elogEvpMqttStatus 0x0#8 "EVP Block Warning 2."
      (systemRegElog elogEvpBlobNetworkStatus 0x40#8 "EVP Block Warning."
        elog)).code? elogEvpMqttStatus = some 0x0#8 := by
    have hne : elogEvpBlobNetworkStatus ≠ elogEvpMqttStatus := by decide
    rw [code?_systemRegElog, code?_systemRegElog, hmqtt, if_neg fun h ↦ hne h.2,
      if_pos ⟨hlength, rfl⟩]
    rfl
  exact ⟨code?_systemRegElog_of_some _ _ (code?_systemRegElog_of_some _ _ hblob),
    code?_systemRegElog_of_some _ _ hsecond⟩

theorem simulates_start (start : FirstRegistration) : Simulates start.world Monitor.initial := by
  obtain ⟨hblobNetwork, hmqtt⟩ :=
    code?_regElogs start.blobNetworkStatus_new start.mqttStatus_new start.room
  have hblob : Monitor.initial.blobNetwork.encode = 0x40#8 := by decide
  have hzero : Monitor.initial.mqtt.encode = 0x0#8 := by decide
  exact ⟨hblob ▸ hblobNetwork, hzero ▸ hmqtt, rfl⟩

/-- Every run of the handlers is the run of the monitor over the same events. -/
theorem simulates_run [Errno] (utilityLogWriteELog : ℕ → UtilityLogStatus)
    (start : FirstRegistration) (events : List Event) :
    Simulates (run utilityLogWriteELog start events) (Monitor.run events) := by
  induction events using List.reverseRecOn with
  | nil => exact simulates_start start
  | append_singleton events event ih =>
      rw [run_concat, Monitor.run_concat]
      exact ih.handle utilityLogWriteELog event

end EdgeDeviceCore.Notifications
