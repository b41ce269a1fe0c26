import EdgeDeviceCore.Notifications.Events

/-!
# The status bytes and what they monitor

`notifications.c` documents the two status bytes field by field. Here each byte is a record with
one field for each field of its format, and the component is a machine over these records: what
every notification means for them, with no elog table and no masks. The handlers are compared with
this machine in `Simulation`.
-/

open EdgeDeviceCore.Elog EdgeDeviceCore.Platform

namespace EdgeDeviceCore.Notifications

/-! ## The formats of the bytes -/

/-- Bits 7-2 of `evp_elog_code`. No row of the format sets all of them. -/
structure BlobOperation where
  field : BitVec 6
  ne_allOnes : field ≠ BitVec.allOnes 6
deriving DecidableEq

/-- `evp_elog_code`: the last blob operation and the network status. -/
structure BlobNetworkStatus where
  blobOperation : BlobOperation
  tcpCloseTimeout : Bool
  sslTimeout : Bool
deriving DecidableEq

/-- `evp_elog_code2`. Its bit 0, for a forced change of the system time, is never set. -/
structure MqttStatus where
  reconnectionCount : BitVec 4
  recvBufferTooSmall : Bool
  sendBufferIsFull : Bool
  invalidTime : Bool
deriving DecidableEq, Repr

def BlobNetworkStatus.encode (status : BlobNetworkStatus) : BitVec 8 :=
  (status.blobOperation.field.concat status.tcpCloseTimeout).concat status.sslTimeout

def MqttStatus.encode (status : MqttStatus) : BitVec 8 :=
  (((status.reconnectionCount.concat status.recvBufferTooSmall).concat
    status.sendBufferIsFull).concat status.invalidTime).concat false

theorem BlobNetworkStatus.getLsbD_encode (status : BlobNetworkStatus) (bit : ℕ) :
    status.encode.getLsbD bit =
      if bit = 0 then status.sslTimeout
      else if bit = 1 then status.tcpCloseTimeout
      else status.blobOperation.field.getLsbD (bit - 2) := by
  change ((status.blobOperation.field.concat status.tcpCloseTimeout).concat
    status.sslTimeout).getLsbD bit = _
  simp only [BitVec.getLsbD_concat]
  grind

theorem MqttStatus.getLsbD_encode (status : MqttStatus) (bit : ℕ) :
    status.encode.getLsbD bit =
      if bit = 0 then false
      else if bit = 1 then status.invalidTime
      else if bit = 2 then status.sendBufferIsFull
      else if bit = 3 then status.recvBufferTooSmall
      else status.reconnectionCount.getLsbD (bit - 4) := by
  change ((((status.reconnectionCount.concat status.recvBufferTooSmall).concat
    status.sendBufferIsFull).concat status.invalidTime).concat false).getLsbD bit = _
  simp only [BitVec.getLsbD_concat]
  grind

theorem BlobNetworkStatus.encode_injective : Function.Injective encode := by
  intro left right h
  have hbit (bit : ℕ) : left.encode.getLsbD bit = right.encode.getLsbD bit := by rw [h]
  have hssl : left.sslTimeout = right.sslTimeout := by
    simpa only [getLsbD_encode, if_true] using hbit 0
  have htcp : left.tcpCloseTimeout = right.tcpCloseTimeout := by
    simpa only [getLsbD_encode, one_ne_zero, if_false, if_true] using hbit 1
  have hfield : left.blobOperation.field = right.blobOperation.field := by
    apply BitVec.eq_of_getLsbD_eq
    intro bit _
    simpa [getLsbD_encode] using hbit (bit + 2)
  obtain ⟨⟨_, _⟩, _, _⟩ := left
  obtain ⟨⟨_, _⟩, _, _⟩ := right
  simp_all

/-- A stored status is never mistaken for a read that failed. -/
theorem BlobNetworkStatus.encode_ne_elogErr (status : BlobNetworkStatus) :
    status.encode ≠ elogErr := by
  intro h
  apply status.blobOperation.ne_allOnes
  apply BitVec.eq_of_getLsbD_eq
  intro bit hbit
  have hencode : status.encode.getLsbD (bit + 2) = elogErr.getLsbD (bit + 2) := by rw [h]
  rw [status.getLsbD_encode] at hencode
  interval_cases bit <;> simpa [elogErr] using hencode

theorem MqttStatus.encode_ne_elogErr (status : MqttStatus) : status.encode ≠ elogErr := by
  intro h
  have hencode : status.encode.getLsbD 0 = elogErr.getLsbD 0 := by rw [h]
  rw [status.getLsbD_encode, if_pos rfl] at hencode
  exact absurd hencode (by decide)

/-! ## The rows of the formats -/

/-- The rows of "BlobOperation fail by http". -/
def httpStatusRows : List (ℕ × BitVec 4) :=
  [(200, 0b0001#4), (400, 0b0010#4), (401, 0b0011#4), (403, 0b0100#4), (404, 0b0101#4),
    (500, 0b0110#4), (502, 0b0111#4), (503, 0b1000#4)]

/-- The rows of "BlobOperation fail by others", by the names of the error numbers. -/
def errnoRows : List (ErrnoName × BitVec 4) :=
  [(.EPERM, 0b0001#4), ( ErrnoName.EIO, 0b0010#4), (.E2BIG, 0b0011#4), (.ENOMEM, 0b0100#4),
    (.EINVAL, 0b0101#4), (.EPROTO, 0b0110#4), (.ELOOP, 0b0111#4), (.ECONNABORTED, 0b1000#4),
    (.EHOSTUNREACH, 0b1001#4), (.ENOTSUP, 0b1010#4)]

def httpStatusClass (status : BitVec 32) : BitVec 4 :=
  ((httpStatusRows.find? fun row ↦ status.toNat = row.1).map Prod.snd).getD 0b1001#4

def errnoClass [Errno] (error : ℤ) : BitVec 4 :=
  ((errnoRows.find? fun row ↦ error = Errno.value row.1).map Prod.snd).getD 0b1011#4

theorem errnoClass_ne_allOnes [Errno] (error : ℤ) : errnoClass error ≠ BitVec.allOnes 4 := by
  rw [errnoClass]
  cases hrow : errnoRows.find? fun row ↦ error = Errno.value row.1 with
  | none => decide
  | some row =>
      have hmem : row ∈ errnoRows := List.mem_of_find?_eq_some hrow
      have hrows : ∀ row ∈ errnoRows, row.2 ≠ BitVec.allOnes 4 := by decide
      exact hrows row hmem

namespace BlobOperation

def success : BlobOperation := ⟨0b010000#6, by decide⟩

def failByHttp (status : BitVec 32) : BlobOperation where
  field := 0b10#2 ++ httpStatusClass status
  ne_allOnes := (by decide : ∀ row : BitVec 4, 0b10#2 ++ row ≠ BitVec.allOnes 6) _

def failByOthers [Errno] (error : ℤ) : BlobOperation where
  field := 0b11#2 ++ errnoClass error
  ne_allOnes := (by decide : ∀ row : BitVec 4, row ≠ BitVec.allOnes 4 →
    0b11#2 ++ row ≠ BitVec.allOnes 6) _ (errnoClass_ne_allOnes error)

/-- The row of a blob result. -/
def ofResult [Errno] (notif : BlobResult) : BlobOperation :=
  match notif.result with
  | .success => success
  | .errorHttp => failByHttp notif.httpStatus
  | .error | .other _ => failByOthers notif.error

end BlobOperation

/-! ## The machine -/

/-- The fields of both bytes, and the counter and flags kept for the next recovery. -/
structure Monitor where
  blobNetwork : BlobNetworkStatus
  mqtt : MqttStatus
  flags : Flags

def Monitor.initial : Monitor where
  blobNetwork := ⟨.success, false, false⟩
  mqtt := ⟨0, false, false, false⟩
  flags := Flags.initial

/-- A success clears the SSL timeout; a failure leaves it. -/
def BlobNetworkStatus.noteResult [Errno] (notif : BlobResult) (status : BlobNetworkStatus) :
    BlobNetworkStatus where
  blobOperation := .ofResult notif
  tcpCloseTimeout := status.tcpCloseTimeout
  sslTimeout := status.sslTimeout && notif.result ≠ .success

def BlobNetworkStatus.noteNetworkError (reason : CString) (status : BlobNetworkStatus) :
    BlobNetworkStatus :=
  { status with sslTimeout := status.sslTimeout || reason.startsWith "ssl_timeout" }

def BlobNetworkStatus.noteRecovery (flags : Flags) (status : BlobNetworkStatus) :
    BlobNetworkStatus :=
  { status with tcpCloseTimeout := flags.tcpTimerErrorTimeout }

/-- A recovery reports the counter and adds the error flags to those already stored. -/
def MqttStatus.noteRecovery (flags : Flags) (status : MqttStatus) : MqttStatus where
  reconnectionCount := flags.mqttReconnectCnt.setWidth 4
  recvBufferTooSmall := status.recvBufferTooSmall || flags.mqttSyncErrorRecvBufferTooSmall
  sendBufferIsFull := status.sendBufferIsFull || flags.mqttSyncErrorSendBufferIsFull
  invalidTime := flags.mqttSyncErrorInvalidTime

/-- The first failure of an outage clears the counter, and the error fields whose flags are up. -/
def MqttStatus.noteFirstFailure (flags : Flags) (status : MqttStatus) : MqttStatus where
  reconnectionCount := 0
  recvBufferTooSmall := status.recvBufferTooSmall && !flags.mqttSyncErrorRecvBufferTooSmall
  sendBufferIsFull := status.sendBufferIsFull && !flags.mqttSyncErrorSendBufferIsFull
  invalidTime := status.invalidTime

/-- Raise the flags that a failure calls for. -/
def Flags.noteFailure (reason : CString) (sysTime : SysTime) (flags : Flags) : Flags :=
  { flags with
    mqttSyncErrorInvalidTime := flags.mqttSyncErrorInvalidTime || sysTime.isInvalidTime
    mqttSyncErrorRecvBufferTooSmall := flags.mqttSyncErrorRecvBufferTooSmall ||
      reason.startsWith "MQTT_ERROR_RECV_BUFFER_TOO_SMALL"
    mqttSyncErrorSendBufferIsFull := flags.mqttSyncErrorSendBufferIsFull ||
      reason.startsWith "MQTT_ERROR_SEND_BUFFER_IS_FULL" }

/-- Count a failure, up to the largest count that the byte can report. -/
def Flags.countFailure (flags : Flags) : Flags :=
  if flags.mqttReconnectCnt < mqttReconnectCntMax then
    { flags with mqttReconnectCnt := flags.mqttReconnectCnt + 1 }
  else
    flags

@[simp]
theorem Flags.countFailure_recvBufferTooSmall (flags : Flags) :
    flags.countFailure.mqttSyncErrorRecvBufferTooSmall =
      flags.mqttSyncErrorRecvBufferTooSmall := by
  unfold Flags.countFailure
  split <;> rfl

@[simp]
theorem Flags.countFailure_sendBufferIsFull (flags : Flags) :
    flags.countFailure.mqttSyncErrorSendBufferIsFull = flags.mqttSyncErrorSendBufferIsFull := by
  unfold Flags.countFailure
  split <;> rfl

namespace Monitor

def recover (monitor : Monitor) : Monitor where
  blobNetwork := monitor.blobNetwork.noteRecovery monitor.flags
  mqtt := monitor.mqtt.noteRecovery monitor.flags
  flags := Flags.initial

def fail (reason : CString) (sysTime : SysTime) (monitor : Monitor) : Monitor where
  blobNetwork := monitor.blobNetwork
  mqtt :=
    if monitor.flags.mqttReconnectCnt = 0 then
      monitor.mqtt.noteFirstFailure (monitor.flags.noteFailure reason sysTime)
    else
      monitor.mqtt
  flags := (monitor.flags.noteFailure reason sysTime).countFailure

variable [Errno]

def notify (sysTime : SysTime) (monitor : Monitor) : Notification → Monitor
  | .blobResult none => monitor
  | .blobResult (some notif) =>
      { monitor with blobNetwork := monitor.blobNetwork.noteResult notif }
  | .mqttSyncErr reason =>
      if reason.startsWith "MQTT_OK" then monitor.recover else monitor.fail reason sysTime
  | .networkError reason =>
      { monitor with blobNetwork := monitor.blobNetwork.noteNetworkError reason }
  | .agentStatus _ _ => monitor

def step (monitor : Monitor) : Event → Monitor
  | .notify notification sysTime => monitor.notify sysTime notification
  | .tcpTimerErrorTimeout =>
      { monitor with flags := { monitor.flags with tcpTimerErrorTimeout := true } }
  | .regElog _ _ _ | .setELog _ _ => monitor

def run (events : List Event) : Monitor := events.foldl step initial

theorem run_concat (events : List Event) (event : Event) :
    run (events ++ [event]) = (run events).step event :=
  List.foldl_concat _ _ _ _

end Monitor

end EdgeDeviceCore.Notifications
