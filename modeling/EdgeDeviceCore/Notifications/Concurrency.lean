import EdgeDeviceCore.Notifications.Simulation
import EdgeDeviceCore.Semantics.ExclusiveSections

/-!
# Concurrent handlers of the blob and network status

`SystemGetELog` and `SystemSetELog` hold the elog mutex, but a handler releases it between its
read of the blob and network status and its write. A handler that reads meanwhile works from the
same old code, and the later write undoes the earlier one. As long as no handler reads the status
between the read and the write of another, every schedule leaves the code that some sequential
order of the handlers leaves.
-/

open EdgeDeviceCore.Elog EdgeDeviceCore.Platform EdgeDeviceCore.Semantics
open AtomicProgram ExclusiveSections

namespace EdgeDeviceCore.Notifications

/-- The invocations of handlers that write the blob and network status. -/
inductive Invocation where
  | blobResult (event : Option BlobResult)
  | networkError (reason : CString)
  /-- `mqtt/sync/err` with a reason that starts with `MQTT_OK`. -/
  | mqttOk (rest : CString)
deriving DecidableEq

def Invocation.notification : Invocation → Notification
  | .blobResult event => .blobResult event
  | .networkError reason => .networkError reason
  | .mqttOk rest => .mqttSyncErr ("MQTT_OK".toList ++ rest)

def Invocation.handler [Errno] : Invocation → Handler ℤ
  | .blobResult event => elogHandlerBlobResult event
  | .networkError reason => elogHandlerNetworkError reason
  | .mqttOk rest => elogHandlerMqttSyncResult ("MQTT_OK".toList ++ rest)

/-- The read that starts the update of the blob and network status. -/
def readsBlobNetworkStatus : HandlerOp → Bool
  | .getELog component => component = elogEvpBlobNetworkStatus
  | _ => false

/-- Both status bytes are registered and encode their fields. -/
def Legible (world : World) : Prop := ∃ monitor, Simulates world monitor

/-- What the handlers of the blob and network status depend on. -/
def SameBlobNetwork (left right : World) : Prop :=
  left.elog.code? elogEvpBlobNetworkStatus = right.elog.code? elogEvpBlobNetworkStatus ∧
    left.flags = right.flags

theorem sameBlobNetwork_equivalence : Equivalence SameBlobNetwork where
  refl _ := ⟨rfl, rfl⟩
  symm h := ⟨h.1.symm, h.2.symm⟩
  trans hleft hright := ⟨hleft.1.trans hright.1, hleft.2.trans hright.2⟩

variable [Errno] (utilityLogWriteELog : ℕ → UtilityLogStatus)

/-! ## The handlers keep the bytes legible among others -/

section Keeps

theorem ensures_getBlobNetwork :
    (getELog elogEvpBlobNetworkStatus).Ensures (World.perform utilityLogWriteELog) Legible
      fun code ↦ ∃ status : BlobNetworkStatus, code = status.encode := by
  rintro state ⟨monitor, h⟩
  exact ⟨⟨monitor, h⟩, monitor.blobNetwork, h.getBlobNetwork⟩

theorem ensures_getMqtt :
    (getELog elogEvpMqttStatus).Ensures (World.perform utilityLogWriteELog) Legible
      fun code ↦ ∃ status : MqttStatus, code = status.encode := by
  rintro state ⟨monitor, h⟩
  exact ⟨⟨monitor, h⟩, monitor.mqtt, h.getMqtt⟩

theorem keeps_setBlobNetwork (status : BlobNetworkStatus) :
    (setELog elogEvpBlobNetworkStatus status.encode).Keeps (World.perform utilityLogWriteELog)
      Legible := by
  rintro state ⟨monitor, h⟩
  exact ⟨⟨_, h.setBlobNetwork utilityLogWriteELog status⟩, trivial⟩

theorem keeps_setMqtt (status : MqttStatus) :
    (setELog elogEvpMqttStatus status.encode).Keeps (World.perform utilityLogWriteELog)
      Legible := by
  rintro state ⟨monitor, h⟩
  exact ⟨⟨_, h.setMqtt utilityLogWriteELog status⟩, trivial⟩

theorem keeps_readFlag {Value : Type} (flag : Flags → Value) :
    (readFlag flag).Keeps (World.perform utilityLogWriteELog) Legible :=
  fun _ h ↦ ⟨h, trivial⟩

theorem keeps_writeFlag (update : Flags → Flags) :
    (writeFlag update).Keeps (World.perform utilityLogWriteELog) Legible := by
  rintro state ⟨monitor, h⟩
  exact ⟨⟨_, h.setFlags _⟩, trivial⟩

theorem keeps_blobSuccess :
    elogHandlerBlobSuccess.Keeps (World.perform utilityLogWriteELog) Legible := by
  refine (ensures_getBlobNetwork utilityLogWriteELog).bind ?_
  rintro _ ⟨status, rfl⟩
  simp only [clearSslTimeout_encode, replaceBlobOperation_encode _ (1#8 <<< 6) .success (by decide)]
  exact (keeps_setBlobNetwork utilityLogWriteELog _).bind fun _ ↦ trivial

theorem keeps_blobHttpError (status : BitVec 32) :
    (elogHandlerBlobHttpError status).Keeps (World.perform utilityLogWriteELog) Legible := by
  refine (ensures_getBlobNetwork utilityLogWriteELog).bind ?_
  rintro _ ⟨code, rfl⟩
  simp only [if_neg code.encode_ne_elogErr,
    replaceBlobOperation_encode _ _ _ (httpStatusBits_field status)]
  exact keeps_setBlobNetwork utilityLogWriteELog _

theorem keeps_blobOtherError (error : ℤ) :
    (elogHandlerBlobOtherError error).Keeps (World.perform utilityLogWriteELog) Legible := by
  refine (ensures_getBlobNetwork utilityLogWriteELog).bind ?_
  rintro _ ⟨code, rfl⟩
  simp only [if_neg code.encode_ne_elogErr,
    replaceBlobOperation_encode _ _ _ (errorBits_field error)]
  exact (keeps_setBlobNetwork utilityLogWriteELog _).bind fun _ ↦ trivial

theorem keeps_networkError (reason : CString) :
    (elogHandlerNetworkError reason).Keeps (World.perform utilityLogWriteELog) Legible := by
  refine (ensures_getBlobNetwork utilityLogWriteELog).bind ?_
  rintro _ ⟨code, rfl⟩
  rw [if_neg code.encode_ne_elogErr]
  refine Keeps.bind ?_ fun _ ↦ trivial
  split
  · rw [setSslTimeout_encode]
    exact keeps_setBlobNetwork utilityLogWriteELog _
  · exact keeps_setBlobNetwork utilityLogWriteELog _

/-- The reads of the flags may see different states: the code reported is legible all the same. -/
theorem keeps_reportRecovery (mqtt : MqttStatus) :
    (reportRecovery mqtt.encode).Keeps (World.perform utilityLogWriteELog) Legible := by
  refine (ensures_getBlobNetwork utilityLogWriteELog).bind ?_
  rintro _ ⟨code, rfl⟩
  rw [if_neg code.encode_ne_elogErr]
  refine (keeps_readFlag utilityLogWriteELog _).bind fun mqttReconnectCnt ↦ ?_
  refine (keeps_readFlag utilityLogWriteELog _).bind fun recvBufferTooSmall ↦ ?_
  refine (keeps_readFlag utilityLogWriteELog _).bind fun sendBufferIsFull ↦ ?_
  refine (keeps_readFlag utilityLogWriteELog _).bind fun invalidTime ↦ ?_
  refine (keeps_readFlag utilityLogWriteELog _).bind fun tcpTimerErrorTimeout ↦ ?_
  refine (keeps_writeFlag utilityLogWriteELog _).bind fun _ ↦ ?_
  refine (keeps_writeFlag utilityLogWriteELog _).bind fun _ ↦ ?_
  refine (keeps_writeFlag utilityLogWriteELog _).bind fun _ ↦ ?_
  refine (keeps_writeFlag utilityLogWriteELog _).bind fun _ ↦ ?_
  refine (keeps_writeFlag utilityLogWriteELog _).bind fun _ ↦ ?_
  have hmqtt := recoveredMqttCode_encode mqtt
    ⟨mqttReconnectCnt, recvBufferTooSmall, sendBufferIsFull, invalidTime, tcpTimerErrorTimeout⟩
  have hblobNetwork := recoveredBlobNetworkCode_encode code
    ⟨mqttReconnectCnt, recvBufferTooSmall, sendBufferIsFull, invalidTime, tcpTimerErrorTimeout⟩
  simp only [hmqtt, hblobNetwork]
  refine (keeps_setMqtt utilityLogWriteELog _).bind fun _ ↦ ?_
  exact (keeps_setBlobNetwork utilityLogWriteELog _).bind fun _ ↦ trivial

theorem keeps_mqttSyncSuccess :
    elogHandlerMqttSyncSuccess.Keeps (World.perform utilityLogWriteELog) Legible := by
  refine (ensures_getMqtt utilityLogWriteELog).bind ?_
  rintro _ ⟨mqtt, rfl⟩
  rw [if_neg mqtt.encode_ne_elogErr]
  exact keeps_reportRecovery utilityLogWriteELog mqtt

theorem mqttSyncResult_of_ok (rest : CString) :
    elogHandlerMqttSyncResult ("MQTT_OK".toList ++ rest) =
      (do let _ ← elogHandlerMqttSyncSuccess; return 0) := by
  have hcheck :
      strncmp ("MQTT_OK".toList ++ rest) "MQTT_OK".toList "MQTT_OK".toList.length = 0 := by
    rw [strncmp_eq_zero_iff (by decide)]
    exact List.prefix_append ..
  simp only [elogHandlerMqttSyncResult, if_pos hcheck]

theorem keeps_handler (invocation : Invocation) :
    invocation.handler.Keeps (World.perform utilityLogWriteELog) Legible := by
  cases invocation with
  | networkError reason => exact keeps_networkError utilityLogWriteELog reason
  | mqttOk rest =>
      rw [Invocation.handler, mqttSyncResult_of_ok]
      exact (keeps_mqttSyncSuccess utilityLogWriteELog).bind fun _ ↦ trivial
  | blobResult event =>
      cases event with
      | none => trivial
      | some notif =>
          refine Keeps.bind ?_ fun _ ↦ trivial
          split
          · exact keeps_blobSuccess utilityLogWriteELog
          · exact keeps_blobHttpError utilityLogWriteELog _
          · exact keeps_blobOtherError utilityLogWriteELog _
          · exact keeps_blobOtherError utilityLogWriteELog _

end Keeps

/-! ## The handlers as exclusive sections -/

section Admissible

theorem exec_handler (invocation : Invocation) (world : World) :
    (invocation.handler.exec (World.perform utilityLogWriteELog) world).2 =
      world.notify utilityLogWriteELog invocation.notification := by
  cases invocation <;> rfl

/-- Neither the MQTT status nor the clock matters for the next blob and network status. -/
theorem notify_congr (invocation : Invocation) (leftTime rightTime : SysTime)
    {left right : Monitor} (hblobNetwork : left.blobNetwork = right.blobNetwork)
    (hflags : left.flags = right.flags) :
    (left.notify leftTime invocation.notification).blobNetwork =
        (right.notify rightTime invocation.notification).blobNetwork ∧
      (left.notify leftTime invocation.notification).flags =
        (right.notify rightTime invocation.notification).flags := by
  cases invocation with
  | networkError reason => simp [Invocation.notification, Monitor.notify, hblobNetwork, hflags]
  | blobResult event =>
      cases event <;> simp [Invocation.notification, Monitor.notify, hblobNetwork, hflags]
  | mqttOk rest =>
      have hok : CString.startsWith ("MQTT_OK".toList ++ rest) "MQTT_OK" = true := by
        rw [CString.startsWith, List.isPrefixOf_iff_prefix]
        exact List.prefix_append ..
      simp only [Invocation.notification, Monitor.notify, if_pos hok, Monitor.recover, hblobNetwork,
        hflags, and_self]

omit [Errno] in
theorem sameBlobNetwork_iff {left right : World} {leftMonitor rightMonitor : Monitor}
    (hleft : Simulates left leftMonitor) (hright : Simulates right rightMonitor) :
    SameBlobNetwork left right ↔
      leftMonitor.blobNetwork = rightMonitor.blobNetwork ∧
        leftMonitor.flags = rightMonitor.flags := by
  rw [SameBlobNetwork, hleft.blobNetwork, hright.blobNetwork, hleft.flags, hright.flags,
    Option.some_inj, BlobNetworkStatus.encode_injective.eq_iff]

theorem handler_respects (invocation : Invocation) {left right : World} (hleft : Legible left)
    (hright : Legible right) (hsame : SameBlobNetwork left right) :
    SameBlobNetwork (invocation.handler.exec (World.perform utilityLogWriteELog) left).2
      (invocation.handler.exec (World.perform utilityLogWriteELog) right).2 := by
  obtain ⟨leftMonitor, hleft⟩ := hleft
  obtain ⟨rightMonitor, hright⟩ := hright
  obtain ⟨hblobNetwork, hflags⟩ := (sameBlobNetwork_iff hleft hright).mp hsame
  rw [exec_handler, exec_handler]
  exact (sameBlobNetwork_iff
    (hleft.handle utilityLogWriteELog (.notify invocation.notification left.sysTime))
    (hright.handle utilityLogWriteELog (.notify invocation.notification right.sysTime))).mpr
      (notify_congr invocation _ _ hblobNetwork hflags)

/-- A report made over an older MQTT status leaves the same blob and network status. -/
theorem reportRecovery_agrees (mqtt : MqttStatus) {world : World} (h : Legible world) :
    SameBlobNetwork (world.runHandler utilityLogWriteELog (reportRecovery mqtt.encode))
      (world.runHandler utilityLogWriteELog elogHandlerMqttSyncSuccess) := by
  obtain ⟨monitor, h⟩ := h
  rw [h.runHandler_reportRecovery utilityLogWriteELog mqtt,
    h.runHandler_mqttSyncSuccess utilityLogWriteELog]
  have hflags := h.setFlags Flags.initial
  exact (sameBlobNetwork_iff
    ((hflags.setMqtt utilityLogWriteELog _).setBlobNetwork utilityLogWriteELog _)
    ((hflags.setMqtt utilityLogWriteELog _).setBlobNetwork utilityLogWriteELog _)).mpr ⟨rfl, rfl⟩

theorem mqttOk_prelude (rest : CString) :
    Prelude (World.perform utilityLogWriteELog) readsBlobNetworkStatus SameBlobNetwork Legible
      (Invocation.mqttOk rest).handler (Invocation.mqttOk rest).handler := by
  rw [Invocation.handler, mqttSyncResult_of_ok]
  rintro state ⟨monitor, h⟩
  refine ⟨rfl, ?_⟩
  have hreply : (World.perform utilityLogWriteELog (.getELog elogEvpMqttStatus) state).1 =
      monitor.mqtt.encode := h.getMqtt
  rw [hreply]
  change Prelude _ _ _ _ _ ((if monitor.mqtt.encode = elogErr then pure (-Errno.value .EINVAL)
    else reportRecovery monitor.mqtt.encode) >>= fun _ ↦ pure 0)
  rw [if_neg monitor.mqtt.encode_ne_elogErr]
  -- what is left opens the section with its read of the blob and network status
  intro later hlater
  have hagrees := reportRecovery_agrees utilityLogWriteELog monitor.mqtt hlater
  simp only [World.runHandler] at hagrees
  change SameBlobNetwork ((reportRecovery monitor.mqtt.encode >>= fun _ ↦ pure 0).exec _ later).2 _
  simpa only [exec_bind, pure_eq_done, exec_done] using hagrees

theorem handler_prelude (invocation : Invocation) :
    Prelude (World.perform utilityLogWriteELog) readsBlobNetworkStatus SameBlobNetwork Legible
      invocation.handler invocation.handler := by
  cases invocation with
  | mqttOk rest => exact mqttOk_prelude utilityLogWriteELog rest
  | networkError reason => exact Prelude.of_opens sameBlobNetwork_equivalence rfl
  | blobResult event =>
      cases event with
      | none => exact fun state _ ↦ ⟨rfl, rfl⟩
      | some notif =>
          obtain ⟨result, httpStatus, error⟩ := notif
          cases result <;> exact Prelude.of_opens sameBlobNetwork_equivalence rfl

theorem handler_admissible (invocation : Invocation) :
    Admissible (World.perform utilityLogWriteELog) readsBlobNetworkStatus SameBlobNetwork Legible
      invocation.handler where
  keeps := keeps_handler utilityLogWriteELog invocation
  prelude := handler_prelude utilityLogWriteELog invocation
  respects _ _ hleft hright hsame :=
    handler_respects utilityLogWriteELog invocation hleft hright hsame

end Admissible

/-! ## Lost updates -/

section LostUpdates

variable (start : FirstRegistration) (events : List Event) (invocations : List Invocation)
  (schedule : List ℕ)

/-- The invocations, all started after a run of events. -/
def concurrentHandlers : Pool HandlerOp HandlerOp.Reply ℤ World :=
  Pool.start (invocations.map Invocation.handler) (run utilityLogWriteELog start events)

/-- The code that the invocations leave when they run one after another. -/
def sequentialCode (order : List Invocation) : BitVec 8 :=
  systemGetELog elogEvpBlobNetworkStatus (execAll (World.perform utilityLogWriteELog)
    (order.map Invocation.handler) (run utilityLogWriteELog start events)).elog

/-- Once every invocation has finished, the code stored for the blob and network status is the one
that some sequential order of the invocations leaves. -/
def NoLostUpdate : Prop :=
  ∀ final, (concurrentHandlers utilityLogWriteELog start events invocations).outcome
      (World.perform utilityLogWriteELog) readsBlobNetworkStatus schedule = some final →
    ∃ order : List Invocation, order.Perm invocations ∧
      systemGetELog elogEvpBlobNetworkStatus final.elog =
        sequentialCode utilityLogWriteELog start events order

omit [Errno] in
/-- A permutation of mapped values is the map of a permutation. -/
theorem exists_perm_of_perm_map {Source Target : Type} {f : Source → Target} {sources : List Source}
    {targets : List Target} (h : targets.Perm (sources.map f)) :
    ∃ order : List Source, order.Perm sources ∧ order.map f = targets := by
  have hrel : Relation.Comp (List.Forall₂ fun source target ↦ f source = target) List.Perm
      sources targets :=
    ⟨sources.map f, by simp [List.forall₂_map_right_iff, List.forall₂_same], h.symm⟩
  rw [List.forall₂_comp_perm_eq_perm_comp_forall₂] at hrel
  obtain ⟨order, hperm, hmap⟩ := hrel
  refine ⟨order, hperm.symm, ?_⟩
  rwa [← List.forall₂_eq_eq_eq, List.forall₂_map_left_iff]

/-- **No update is lost between exclusive handlers.** If along the schedule no handler reads the
blob and network status between the read and the write of another, no update is lost. -/
theorem noLostUpdate_of_exclusive
    (hexclusive : (concurrentHandlers utilityLogWriteELog start events invocations).exclusive
      (World.perform utilityLogWriteELog) readsBlobNetworkStatus schedule = true) :
    NoLostUpdate utilityLogWriteELog start events invocations schedule := by
  intro final houtcome
  have hlegible : Legible (run utilityLogWriteELog start events) :=
    ⟨_, simulates_run utilityLogWriteELog start events⟩
  have hadmissible : ∀ program ∈ invocations.map Invocation.handler,
      Admissible (World.perform utilityLogWriteELog) readsBlobNetworkStatus SameBlobNetwork Legible
        program := by
    intro program hprogram
    obtain ⟨invocation, -, rfl⟩ := List.mem_map.mp hprogram
    exact handler_admissible utilityLogWriteELog invocation
  obtain ⟨programs, hperm, hsame⟩ := exists_serial_order sameBlobNetwork_equivalence hlegible
    hadmissible hexclusive houtcome
  obtain ⟨order, horder, rfl⟩ := exists_perm_of_perm_map hperm
  refine ⟨order, horder, ?_⟩
  rw [sequentialCode, systemGetELog_eq, systemGetELog_eq, hsame.1]

end LostUpdates

/-- A failed blob operation and an SSL timeout that arrive together. -/
def failureAndTimeout : List Invocation :=
  [.blobResult (some ⟨.errorHttp, 500#32, 0⟩), .networkError "ssl_timeout".toList]

omit [Errno] in
/-- The two handlers one after the other. -/
theorem noLostUpdate_of_exclusive_inTurn :
    ((@concurrentHandlers Errno.linux (fun _ ↦ .ok) FirstRegistration.boot []
        failureAndTimeout).outcome (@World.perform Errno.linux fun _ ↦ .ok)
          readsBlobNetworkStatus [0, 0, 1, 1]).isSome = true ∧
      @NoLostUpdate Errno.linux (fun _ ↦ .ok) FirstRegistration.boot [] failureAndTimeout
        [0, 0, 1, 1] :=
  ⟨by decide, @noLostUpdate_of_exclusive Errno.linux (fun _ ↦ .ok) FirstRegistration.boot []
    failureAndTimeout [0, 0, 1, 1] (by decide)⟩

omit [Errno] in
/-- Both handlers read before either writes, and the SSL timeout is lost. -/
theorem ssl_timeout_lost :
    ¬ @NoLostUpdate Errno.linux (fun _ ↦ .ok) FirstRegistration.boot [] failureAndTimeout
      [0, 1, 1, 0] := by
  intro h
  have hcode : ((@concurrentHandlers Errno.linux (fun _ ↦ .ok) FirstRegistration.boot []
      failureAndTimeout).outcome (@World.perform Errno.linux fun _ ↦ .ok)
        readsBlobNetworkStatus [0, 1, 1, 0]).map
          (fun final ↦ systemGetELog elogEvpBlobNetworkStatus final.elog) = some 0x98#8 := by decide
  obtain ⟨final, hfinal, hfinalCode⟩ := Option.map_eq_some_iff.mp hcode
  obtain ⟨order, hperm, horder⟩ := h final hfinal
  rw [hfinalCode] at horder
  have hboth : order = failureAndTimeout ∨ order = failureAndTimeout.reverse := by
    have hmem := List.mem_permutations.mpr hperm
    simpa [failureAndTimeout, List.permutations, List.permutationsAux2] using hmem
  rcases hboth with rfl | rfl <;> exact absurd horder (by decide)

end EdgeDeviceCore.Notifications
