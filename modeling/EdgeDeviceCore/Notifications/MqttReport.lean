import EdgeDeviceCore.Notifications.Simulation

/-!
# The report of an MQTT outage

An outage is what happens between two recoveries, or between the registration and the first one.
The recovery that ends it stores a report for the MQTT status: how many failures the outage had
and which errors were seen. The count is always right, and always written as an event. The two
buffer errors are only cleared when an outage starts with the same error, so the reports describe
their outages in exactly the runs where no buffer error is left over from an earlier outage.
-/

open EdgeDeviceCore.Elog EdgeDeviceCore.Platform

namespace EdgeDeviceCore.Notifications

/-! ## Outages -/

/-- The notification that ends an outage. -/
def Event.recovers : Event → Bool
  | .notify (.mqttSyncErr reason) _ => reason.startsWith "MQTT_OK"
  | _ => false

/-- The reason and the clock of a failure notification. -/
def Event.failure? : Event → Option (CString × SysTime)
  | .notify (.mqttSyncErr reason) sysTime =>
      if reason.startsWith "MQTT_OK" then none else some (reason, sysTime)
  | _ => none

/-- A failure whose reason starts with the given name. -/
def Event.failsWith (name : String) (event : Event) : Bool :=
  event.failure?.any fun failure ↦ failure.1.startsWith name

/-- A failure at which the clock is found invalid. -/
def Event.findsInvalidTime (event : Event) : Bool :=
  event.failure?.any fun failure ↦ failure.2.isInvalidTime

def Event.setsTcpTimer : Event → Bool
  | .tcpTimerErrorTimeout => true
  | _ => false

/-- The events since the last recovery, or since the registration if there was none. -/
def outage (events : List Event) : List Event := events.rtakeWhile fun event ↦ !event.recovers

def failureCount (events : List Event) : ℕ := events.countP fun event ↦ event.failure?.isSome

/-- The counter and flags after the events of an outage. -/
def Flags.since (events : List Event) : Flags where
  mqttReconnectCnt := BitVec.ofNat 8 (min (failureCount events) 15)
  mqttSyncErrorRecvBufferTooSmall := events.any (Event.failsWith "MQTT_ERROR_RECV_BUFFER_TOO_SMALL")
  mqttSyncErrorSendBufferIsFull := events.any (Event.failsWith "MQTT_ERROR_SEND_BUFFER_IS_FULL")
  mqttSyncErrorInvalidTime := events.any Event.findsInvalidTime
  tcpTimerErrorTimeout := events.any Event.setsTcpTimer

/-- The named error, if it was ever shown, was shown in the last outage too. -/
def Renewed (name : String) (events : List Event) : Prop :=
  events.any (Event.failsWith name) = true → (outage events).any (Event.failsWith name) = true

/-- At every recovery of the run, the outage has shown each buffer error shown before. -/
def NoErrorLeftOver (events : List Event) : Prop :=
  ∀ before recovery after, events = before ++ recovery :: after → recovery.recovers = true →
    Renewed "MQTT_ERROR_RECV_BUFFER_TOO_SMALL" before ∧
      Renewed "MQTT_ERROR_SEND_BUFFER_IS_FULL" before

section Outages

variable {events : List Event} {event : Event}

theorem outage_concat_of_recovers (h : event.recovers = true) :
    outage (events ++ [event]) = [] := by
  rw [outage, List.rtakeWhile_concat, h]
  rfl

theorem outage_concat (h : event.recovers = false) :
    outage (events ++ [event]) = outage events ++ [event] := by
  rw [outage, List.rtakeWhile_concat, h]
  rfl

theorem outage_append {later : List Event} (h : ∀ event ∈ later, event.recovers = false) :
    outage (events ++ later) = outage events ++ later := by
  induction later using List.reverseRecOn with
  | nil => rw [List.append_nil, List.append_nil]
  | append_singleton later event ih =>
      rw [← List.append_assoc, outage_concat (h event (by simp)),
        ih fun other hmem ↦ h other (List.mem_append_left _ hmem), List.append_assoc]

theorem any_eq_any_outage_iff {name : String} :
    events.any (Event.failsWith name) = (outage events).any (Event.failsWith name) ↔
      Renewed name events := by
  constructor
  · intro h hany
    rwa [← h]
  · intro h
    rw [Bool.eq_iff_iff]
    refine ⟨h, fun hany ↦ ?_⟩
    obtain ⟨event, hmem, hfails⟩ := List.any_eq_true.mp hany
    exact List.any_eq_true.mpr ⟨event, (List.rtakeWhile_suffix _ events).mem hmem, hfails⟩

theorem failureCount_concat :
    failureCount (events ++ [event]) =
      failureCount events + if event.failure?.isSome then 1 else 0 := by
  rw [failureCount, List.countP_append, List.countP_singleton]
  rfl

theorem failure?_of_recovers (h : event.recovers = true) : event.failure? = none := by
  unfold Event.recovers at h
  unfold Event.failure?
  split at h
  · exact if_pos h
  · cases h

theorem setsTcpTimer_of_failure {failure : CString × SysTime}
    (h : event.failure? = some failure) : event.setsTcpTimer = false := by
  cases event with
  | tcpTimerErrorTimeout => cases h
  | _ => rfl

theorem countFailure_ofNat (count : ℕ) (flags : Flags)
    (h : flags.mqttReconnectCnt = BitVec.ofNat 8 (min count 15)) :
    flags.countFailure =
      { flags with mqttReconnectCnt := BitVec.ofNat 8 (min (count + 1) 15) } := by
  have hcnt : flags.mqttReconnectCnt.toNat = min count 15 := by
    rw [h, BitVec.toNat_ofNat]
    omega
  unfold Flags.countFailure
  split
  · rename_i hlt
    rw [BitVec.lt_def, hcnt, mqttReconnectCntMax, BitVec.toNat_ofNat] at hlt
    congr 1
    apply BitVec.eq_of_toNat_eq
    have hone : (1 : BitVec 8).toNat = 1 := rfl
    rw [BitVec.toNat_add, hcnt, hone, BitVec.toNat_ofNat]
    omega
  · rename_i hlt
    rw [BitVec.lt_def, hcnt, mqttReconnectCntMax, BitVec.toNat_ofNat] at hlt
    have hmin : min count 15 = min (count + 1) 15 := by omega
    rw [← hmin, ← h]

end Outages

/-! ## What a step does to the flags and to the MQTT status -/

section Steps

variable [Errno] {event : Event} (monitor : Monitor)

theorem step_of_recovers (h : event.recovers = true) : monitor.step event = monitor.recover := by
  cases event with
  | notify notification sysTime =>
      cases notification with
      | mqttSyncErr reason => exact if_pos h
      | _ => cases h
  | _ => cases h

theorem step_of_failure {reason : CString} {sysTime : SysTime}
    (h : event.failure? = some (reason, sysTime)) :
    monitor.step event = monitor.fail reason sysTime := by
  cases event with
  | notify notification clock =>
      cases notification with
      | mqttSyncErr text =>
          rw [Event.failure?] at h
          split at h
          · cases h
          · rename_i hrecovers
            obtain ⟨rfl, rfl⟩ := Prod.mk.inj (Option.some.inj h)
            exact if_neg hrecovers
      | _ => cases h
  | _ => cases h

/-- Any other event leaves the MQTT status, and of the flags at most raises the TCP timer's. -/
theorem step_of_other (hrecovers : event.recovers = false) (hfailure : event.failure? = none) :
    (monitor.step event).mqtt = monitor.mqtt ∧
      (monitor.step event).flags =
        { monitor.flags with
          tcpTimerErrorTimeout := monitor.flags.tcpTimerErrorTimeout || event.setsTcpTimer } := by
  cases event with
  | notify notification sysTime =>
      cases notification with
      | mqttSyncErr reason =>
          rw [Event.recovers] at hrecovers
          rw [Event.failure?, hrecovers] at hfailure
          cases hfailure
      | blobResult event => cases event <;> simp [Monitor.step, Monitor.notify, Event.setsTcpTimer]
      | networkError reason => simp [Monitor.step, Monitor.notify, Event.setsTcpTimer]
      | agentStatus args inputs => simp [Monitor.step, Monitor.notify, Event.setsTcpTimer]
  | tcpTimerErrorTimeout => simp [Monitor.step, Event.setsTcpTimer]
  | regElog component initValue msg => simp [Monitor.step, Event.setsTcpTimer]
  | setELog other code => simp [Monitor.step, Event.setsTcpTimer]

/-- The counter and flags describe the outage so far. -/
theorem flags_run (events : List Event) :
    (Monitor.run events).flags = Flags.since (outage events) := by
  induction events using List.reverseRecOn with
  | nil => rfl
  | append_singleton events event ih =>
      rw [Monitor.run_concat]
      by_cases hrecovers : event.recovers = true
      · rw [outage_concat_of_recovers hrecovers, step_of_recovers _ hrecovers]
        rfl
      rw [Bool.not_eq_true] at hrecovers
      rw [outage_concat hrecovers]
      cases hfailure : event.failure? with
      | none =>
          rw [(step_of_other _ hrecovers hfailure).2, ih]
          simp [Flags.since, failureCount_concat, Event.failsWith, Event.findsInvalidTime, hfailure]
      | some failure =>
          have htimer := setsTcpTimer_of_failure hfailure
          rw [step_of_failure _ hfailure, Monitor.fail, ih,
            countFailure_ofNat (failureCount (outage events)) _ rfl]
          simp [Flags.since, Flags.noteFailure, failureCount_concat, Event.failsWith,
            Event.findsInvalidTime, hfailure, htimer]

/-- The counter field is clear from the first failure of an outage on. -/
theorem reconnectionCount_run (events : List Event) (h : 0 < failureCount (outage events)) :
    (Monitor.run events).mqtt.reconnectionCount = 0 := by
  induction events using List.reverseRecOn with
  | nil => cases h
  | append_singleton events event ih =>
      rw [Monitor.run_concat]
      by_cases hrecovers : event.recovers = true
      · rw [outage_concat_of_recovers hrecovers] at h
        cases h
      rw [Bool.not_eq_true] at hrecovers
      rw [outage_concat hrecovers, failureCount_concat] at h
      cases hfailure : event.failure? with
      | none =>
          rw [hfailure] at h
          rw [(step_of_other _ hrecovers hfailure).1]
          exact ih h
      | some failure =>
          rw [step_of_failure _ hfailure, Monitor.fail]
          split
          · rfl
          · rename_i hcnt
            apply ih
            by_contra hnone
            obtain hzero : failureCount (outage events) = 0 := by omega
            rw [flags_run, Flags.since, hzero] at hcnt
            exact hcnt rfl

/-- A buffer error is on record, in the stored byte or in its flag, from its first failure on. -/
theorem bufferErrors_run (events : List Event) :
    ((Monitor.run events).mqtt.recvBufferTooSmall ||
        (Monitor.run events).flags.mqttSyncErrorRecvBufferTooSmall) =
      events.any (Event.failsWith "MQTT_ERROR_RECV_BUFFER_TOO_SMALL") ∧
    ((Monitor.run events).mqtt.sendBufferIsFull ||
        (Monitor.run events).flags.mqttSyncErrorSendBufferIsFull) =
      events.any (Event.failsWith "MQTT_ERROR_SEND_BUFFER_IS_FULL") := by
  induction events using List.reverseRecOn with
  | nil => exact ⟨rfl, rfl⟩
  | append_singleton events event ih =>
      obtain ⟨hrecv, hsend⟩ := ih
      rw [Monitor.run_concat, List.any_append, List.any_append, ← hrecv, ← hsend]
      by_cases hrecovers : event.recovers = true
      · have hfailure := failure?_of_recovers hrecovers
        rw [step_of_recovers _ hrecovers]
        simp [Monitor.recover, MqttStatus.noteRecovery, Flags.initial, Event.failsWith, hfailure]
      rw [Bool.not_eq_true] at hrecovers
      cases hfailure : event.failure? with
      | none =>
          obtain ⟨hmqtt, hflags⟩ := step_of_other (Monitor.run events) hrecovers hfailure
          rw [hmqtt, hflags]
          simp [Event.failsWith, hfailure]
      | some failure =>
          have hclear (stored raised now : Bool) :
              (stored && (!raised && !now) || (raised || now)) = (stored || (raised || now)) := by
            cases stored <;> cases raised <;> cases now <;> rfl
          rw [step_of_failure _ hfailure, Monitor.fail]
          split <;>
            simp [MqttStatus.noteFirstFailure, Flags.noteFailure, Event.failsWith, hfailure, hclear,
              Bool.or_assoc]

end Steps

/-! ## The stored report -/

section Reports

variable [Errno] (utilityLogWriteELog : ℕ → UtilityLogStatus) (start : FirstRegistration)

/-- The code stored for the MQTT status after a run. -/
def mqttCodeAfter (events : List Event) : BitVec 8 :=
  systemGetELog elogEvpMqttStatus (run utilityLogWriteELog start events).elog

/-- Bits 7-4 of a code of the MQTT status. -/
def reportedCount (code : BitVec 8) : ℕ := (code >>> 4).toNat

/-- The event writes that a run attempts for the MQTT status. -/
def mqttWrites (events : List Event) : List ElogWrite :=
  writesOf elogEvpMqttStatus (run utilityLogWriteELog start events).elog.writes

theorem mqttCodeAfter_eq (events : List Event) :
    mqttCodeAfter utilityLogWriteELog start events = (Monitor.run events).mqtt.encode :=
  (simulates_run utilityLogWriteELog start events).getMqtt

theorem mqttCodeAfter_recovery {recovery : Event} (h : recovery.recovers = true)
    (events : List Event) :
    mqttCodeAfter utilityLogWriteELog start (events ++ [recovery]) =
      ((Monitor.run events).mqtt.noteRecovery (Flags.since (outage events))).encode := by
  rw [mqttCodeAfter_eq, Monitor.run_concat, step_of_recovers _ h, Monitor.recover, flags_run]

omit [Errno] in
theorem reconnectionCount_encode (status : MqttStatus) :
    reportedCount status.encode = status.reconnectionCount.toNat := by
  have hshift : status.encode >>> 4 = status.reconnectionCount.setWidth 8 := by
    apply BitVec.eq_of_getLsbD_eq
    intro bit hbit
    rw [BitVec.getLsbD_ushiftRight, MqttStatus.getLsbD_encode, BitVec.getLsbD_setWidth]
    interval_cases bit <;> simp
  rw [reportedCount, hshift, BitVec.toNat_setWidth]
  omega

omit [Errno] in
theorem reconnectionCount_noteRecovery (status : MqttStatus) (events : List Event) :
    (status.noteRecovery (Flags.since events)).reconnectionCount.toNat =
      min (failureCount events) 15 := by
  rw [MqttStatus.noteRecovery, Flags.since, BitVec.toNat_setWidth, BitVec.toNat_ofNat]
  omega

omit [Errno] in
theorem mqttReconnectCnt_since_ne_zero {events : List Event} (h : 0 < failureCount events) :
    (Flags.since events).mqttReconnectCnt ≠ 0 := by
  intro hzero
  have hcnt := congrArg BitVec.toNat hzero
  rw [Flags.since, BitVec.toNat_ofNat] at hcnt
  change min (failureCount events) 15 % 2 ^ 8 = 0 at hcnt
  omega

variable {start}

/-- The MQTT status is only written at a recovery or at the first failure of an outage. -/
theorem writesOf_handle {world : World} {monitor : Monitor} (h : Simulates world monitor)
    {event : Event} (hrecovers : event.recovers = false)
    (hcnt : monitor.flags.mqttReconnectCnt ≠ 0) :
    writesOf elogEvpMqttStatus (world.handle utilityLogWriteELog event).elog.writes =
      writesOf elogEvpMqttStatus world.elog.writes := by
  have hne : elogEvpBlobNetworkStatus ≠ elogEvpMqttStatus := by decide
  cases event with
  | tcpTimerErrorTimeout => rfl
  | regElog component initValue msg => rw [World.handle, systemRegElog_writes]
  | setELog other code => exact writesOf_systemSetELog_of_ne utilityLogWriteELog other.ne_mqttStatus
  | notify notification sysTime =>
      have hclock : Simulates { world with sysTime := sysTime } monitor := ⟨h.1, h.2, h.3⟩
      cases notification with
      | agentStatus args inputs => rfl
      | networkError reason =>
          simp only [World.handle, World.notify,
            hclock.runHandler_networkError utilityLogWriteELog reason]
          exact writesOf_systemSetELog_of_ne utilityLogWriteELog hne
      | blobResult event =>
          cases event with
          | none => rfl
          | some notif =>
              simp only [World.handle, World.notify,
                hclock.runHandler_blobResult utilityLogWriteELog notif]
              exact writesOf_systemSetELog_of_ne utilityLogWriteELog hne
      | mqttSyncErr reason =>
          rw [Event.recovers] at hrecovers
          simp only [World.handle, World.notify, Simulates.runHandler_mqttSyncResult, hrecovers,
            Bool.false_eq_true, if_false, hclock.runHandler_mqttSyncFail utilityLogWriteELog reason,
            if_neg hcnt]

/-- A recovery stores its report with one event, if the report differs from the stored code. -/
theorem writesOf_handle_recovery {world : World} {monitor : Monitor} (h : Simulates world monitor)
    {recovery : Event} (hrecovers : recovery.recovers = true)
    (hne : monitor.mqtt.encode ≠ (monitor.mqtt.noteRecovery monitor.flags).encode) :
    ∃ write : ElogWrite,
      writesOf elogEvpMqttStatus (world.handle utilityLogWriteELog recovery).elog.writes =
        writesOf elogEvpMqttStatus world.elog.writes ++ [write] ∧
      write.code = (monitor.mqtt.noteRecovery monitor.flags).encode := by
  have hother : elogEvpBlobNetworkStatus ≠ elogEvpMqttStatus := by decide
  cases recovery with
  | notify notification sysTime =>
      cases notification with
      | mqttSyncErr reason =>
          have hclock : Simulates { world with sysTime := sysTime } monitor := ⟨h.1, h.2, h.3⟩
          have hok : reason.startsWith "MQTT_OK" = true := hrecovers
          simp only [World.handle, World.notify, Simulates.runHandler_mqttSyncResult, hok, if_true,
            hclock.runHandler_mqttSyncSuccess utilityLogWriteELog, World.setELog,
            writesOf_systemSetELog_of_ne utilityLogWriteELog hother,
            writesOf_systemSetELog_of_changed utilityLogWriteELog h.mqtt hne]
          exact ⟨_, rfl, code_eventId ..⟩
      | _ => cases hrecovers
  | _ => cases hrecovers

/-- **The count of an outage and its event**, after any run: what a recovery that comes next
stores and writes, and that nothing is written until it comes. -/
structure CountReported (start : FirstRegistration) (events : List Event) : Prop where
  count : ∀ recovery : Event, recovery.recovers = true →
    reportedCount (mqttCodeAfter utilityLogWriteELog start (events ++ [recovery])) =
      min (failureCount (outage events)) 15
  event : ∀ recovery : Event, recovery.recovers = true → 1 ≤ failureCount (outage events) →
    ∃ write : ElogWrite, mqttWrites utilityLogWriteELog start (events ++ [recovery]) =
        mqttWrites utilityLogWriteELog start events ++ [write] ∧
      reportedCount write.code = min (failureCount (outage events)) 15
  silent : 1 ≤ failureCount (outage events) → ∀ later : List Event,
    (∀ event ∈ later, event.recovers = false) →
      mqttWrites utilityLogWriteELog start (events ++ later) =
        mqttWrites utilityLogWriteELog start events

theorem count_of_recovery {recovery : Event} (h : recovery.recovers = true) (events : List Event) :
    reportedCount (mqttCodeAfter utilityLogWriteELog start (events ++ [recovery])) =
      min (failureCount (outage events)) 15 := by
  rw [mqttCodeAfter_recovery utilityLogWriteELog start h, reconnectionCount_encode,
    reconnectionCount_noteRecovery]

theorem event_of_recovery {recovery : Event} (h : recovery.recovers = true) {events : List Event}
    (hfailures : 1 ≤ failureCount (outage events)) :
    ∃ write : ElogWrite, mqttWrites utilityLogWriteELog start (events ++ [recovery]) =
        mqttWrites utilityLogWriteELog start events ++ [write] ∧
      reportedCount write.code = min (failureCount (outage events)) 15 := by
  -- the stored count is clear since the outage began, the reported one is not
  have hne : (Monitor.run events).mqtt.encode ≠
      ((Monitor.run events).mqtt.noteRecovery (Monitor.run events).flags).encode := by
    intro heq
    have hcount := reconnectionCount_encode (Monitor.run events).mqtt
    rw [heq, reconnectionCount_encode, flags_run, reconnectionCount_noteRecovery,
      reconnectionCount_run events hfailures] at hcount
    change min (failureCount (outage events)) 15 = 0 at hcount
    omega
  obtain ⟨write, hwrites, hcode⟩ := writesOf_handle_recovery utilityLogWriteELog
    (simulates_run utilityLogWriteELog start events) h hne
  refine ⟨write, ?_, ?_⟩
  · rw [mqttWrites, run_concat, hwrites, mqttWrites]
  · rw [hcode, reconnectionCount_encode, flags_run, reconnectionCount_noteRecovery]

theorem silent_until_recovery {events later : List Event}
    (hfailures : 1 ≤ failureCount (outage events))
    (hlater : ∀ event ∈ later, event.recovers = false) :
    mqttWrites utilityLogWriteELog start (events ++ later) =
      mqttWrites utilityLogWriteELog start events := by
  induction later using List.reverseRecOn with
  | nil => rw [List.append_nil]
  | append_singleton later event ih =>
      have hbefore : ∀ event ∈ later, event.recovers = false := fun event hmem ↦
        hlater event (List.mem_append_left _ hmem)
      have hevent : event.recovers = false := hlater event (by simp)
      have houtage : 1 ≤ failureCount (outage (events ++ later)) := by
        rw [outage_append hbefore, failureCount, List.countP_append]
        exact Nat.le_add_right_of_le hfailures
      have hcnt : (Monitor.run (events ++ later)).flags.mqttReconnectCnt ≠ 0 := by
        rw [flags_run]
        exact mqttReconnectCnt_since_ne_zero houtage
      rw [← ih hbefore, ← List.append_assoc, mqttWrites, run_concat,
        writesOf_handle utilityLogWriteELog (simulates_run utilityLogWriteELog start _) hevent hcnt,
        mqttWrites]

/-- **Every outage is counted and reported once.** -/
theorem count_reported (start : FirstRegistration) (events : List Event) :
    CountReported utilityLogWriteELog start events where
  count _ h := count_of_recovery utilityLogWriteELog h events
  event _ h hfailures := event_of_recovery utilityLogWriteELog h hfailures
  silent hfailures _ hlater := silent_until_recovery utilityLogWriteELog hfailures hlater

/-! ## The errors -/

/-- The error bits of a code tell which errors the events have shown. -/
structure Describes (code : BitVec 8) (events : List Event) : Prop where
  recvBufferTooSmall :
    code.getLsbD 3 = events.any (Event.failsWith "MQTT_ERROR_RECV_BUFFER_TOO_SMALL")
  sendBufferIsFull : code.getLsbD 2 = events.any (Event.failsWith "MQTT_ERROR_SEND_BUFFER_IS_FULL")
  invalidTime : code.getLsbD 1 = events.any Event.findsInvalidTime

/-- Every recovery of the run reports the errors of the outage that it ends. -/
def ReportsDescribeOutages (start : FirstRegistration) (events : List Event) : Prop :=
  ∀ before recovery after, events = before ++ recovery :: after → recovery.recovers = true →
    Describes (mqttCodeAfter utilityLogWriteELog start (before ++ [recovery])) (outage before)

/-- What a recovery reports of the errors: the invalid time of its outage, and every buffer error
since the registration. -/
theorem errorBits_of_recovery (start : FirstRegistration) {recovery : Event}
    (h : recovery.recovers = true)
    (events : List Event) :
    (mqttCodeAfter utilityLogWriteELog start (events ++ [recovery])).getLsbD 3 =
        events.any (Event.failsWith "MQTT_ERROR_RECV_BUFFER_TOO_SMALL") ∧
      (mqttCodeAfter utilityLogWriteELog start (events ++ [recovery])).getLsbD 2 =
        events.any (Event.failsWith "MQTT_ERROR_SEND_BUFFER_IS_FULL") ∧
      (mqttCodeAfter utilityLogWriteELog start (events ++ [recovery])).getLsbD 1 =
        (outage events).any Event.findsInvalidTime := by
  obtain ⟨hrecv, hsend⟩ := bufferErrors_run events
  rw [flags_run] at hrecv hsend
  rw [mqttCodeAfter_recovery utilityLogWriteELog start h, MqttStatus.getLsbD_encode,
    MqttStatus.getLsbD_encode, MqttStatus.getLsbD_encode]
  exact ⟨hrecv, hsend, rfl⟩

theorem describes_recovery_iff {recovery : Event} (h : recovery.recovers = true)
    (events : List Event) :
    Describes (mqttCodeAfter utilityLogWriteELog start (events ++ [recovery])) (outage events) ↔
      Renewed "MQTT_ERROR_RECV_BUFFER_TOO_SMALL" events ∧
        Renewed "MQTT_ERROR_SEND_BUFFER_IS_FULL" events := by
  obtain ⟨hrecv, hsend, htime⟩ := errorBits_of_recovery utilityLogWriteELog start h events
  rw [← any_eq_any_outage_iff, ← any_eq_any_outage_iff, ← hrecv, ← hsend]
  exact ⟨fun hdescribes ↦ ⟨hdescribes.recvBufferTooSmall, hdescribes.sendBufferIsFull⟩,
    fun hbits ↦ ⟨hbits.1, hbits.2, htime⟩⟩

/-- **The errors of an outage.** The reports of a run describe their outages exactly when no
buffer error of an earlier outage is left over. -/
theorem reportsDescribeOutages_iff (start : FirstRegistration) (events : List Event) :
    ReportsDescribeOutages utilityLogWriteELog start events ↔ NoErrorLeftOver events := by
  constructor
  · intro h before recovery after hevents hrecovers
    exact (describes_recovery_iff utilityLogWriteELog hrecovers before).mp
      (h before recovery after hevents hrecovers)
  · intro h before recovery after hevents hrecovers
    exact (describes_recovery_iff utilityLogWriteELog hrecovers before).mpr
      (h before recovery after hevents hrecovers)

end Reports

/-- An outage with a full receive buffer, and a later one without. -/
def staleOutages : List Event :=
  ["MQTT_ERROR_RECV_BUFFER_TOO_SMALL", "MQTT_OK", "MQTT_ERROR_RECONNECTING", "MQTT_OK"].map
    fun reason ↦ .notify (.mqttSyncErr reason.toList) ⟨0, 125⟩

/-- The second recovery still reports the error of the first outage. -/
theorem stale_error_reported :
    ¬ @ReportsDescribeOutages Errno.linux (fun _ ↦ .ok) FirstRegistration.boot staleOutages := by
  intro h
  have hreport := h (staleOutages.take 3) (.notify (.mqttSyncErr "MQTT_OK".toList) ⟨0, 125⟩) []
    (by rfl) (by decide)
  have hbit := hreport.recvBufferTooSmall
  rw [@mqttCodeAfter_eq Errno.linux] at hbit
  exact absurd hbit (by decide)

end EdgeDeviceCore.Notifications
