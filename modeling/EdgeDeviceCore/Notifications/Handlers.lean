import EdgeDeviceCore.Elog.Table
import EdgeDeviceCore.Notifications.AgentStatus
import EdgeDeviceCore.Semantics.AtomicProgram

/-!
# The elog handlers of `notifications.c`

The handlers read and write two status bytes through the elog interface, and a counter and flags
of their own. They are programs whose operations are the accesses to what other threads can see:
each call of the elog interface, which holds the elog mutex, and each access to a global. The
messages they log are left out.
-/

open EdgeDeviceCore.Elog EdgeDeviceCore.Platform EdgeDeviceCore.Semantics

namespace EdgeDeviceCore.Notifications

def mqttReconnectCntMax : BitVec 8 := 0x0F#8
def mqttReconnectCntMask : BitVec 8 := 0xF0#8
def mqttReconnectCntShift : ℕ := 4
def mqttErrRecvBuffMask : BitVec 8 := 0x08#8
def mqttErrSendBuffMask : BitVec 8 := 0x04#8
def invalidTimeMask : BitVec 8 := 0x02#8

def elogEvpBlobNetworkStatus : BitVec 8 := 0xf0#8
def elogEvpMqttStatus : BitVec 8 := 0xf1#8
def elogEvpWasmStatus : BitVec 8 := 0xf2#8

/-- The counter and flags of `notifications.c`. -/
structure Flags where
  mqttReconnectCnt : BitVec 8
  mqttSyncErrorRecvBufferTooSmall : Bool
  mqttSyncErrorSendBufferIsFull : Bool
  mqttSyncErrorInvalidTime : Bool
  tcpTimerErrorTimeout : Bool
deriving DecidableEq, Repr

def Flags.initial : Flags := ⟨0, false, false, false, false⟩

/-- One reading of the clock: the result of `clock_gettime` and, when it is `0`, the `tm_year` that
`localtime_r` makes of the time. -/
structure SysTime where
  rv : ℤ
  tmYear : ℤ
deriving DecidableEq, Repr

/-- What the handlers and the other parts of the process share. -/
structure World where
  elog : ElogState
  flags : Flags
  sysTime : SysTime
  leds : Leds

/-! ## Operations -/

/-- The accesses of a handler to what it shares. -/
inductive HandlerOp where
  | getELog (component : BitVec 8)
  | setELog (component code : BitVec 8)
  | readFlags
  | writeFlags (update : Flags → Flags)
  | clockGettime

abbrev HandlerOp.Reply : HandlerOp → Type
  | .getELog _ => BitVec 8
  | .setELog _ _ => ℤ
  | .readFlags => Flags
  | .writeFlags _ => Unit
  | .clockGettime => SysTime

abbrev Handler := AtomicProgram HandlerOp HandlerOp.Reply

def getELog (component : BitVec 8) : Handler (BitVec 8) :=
  .issue (.getELog component) .done

def setELog (component code : BitVec 8) : Handler ℤ :=
  .issue (.setELog component code) .done

/-- Read one of the globals. -/
def readFlag {Value : Type} (flag : Flags → Value) : Handler Value :=
  .issue .readFlags fun flags ↦ .done (flag flags)

/-- Assign one of the globals. -/
def writeFlag (update : Flags → Flags) : Handler Unit :=
  .issue (.writeFlags update) .done

/-- Assign one of the globals on a condition. -/
def writeFlagIf (condition : Bool) (update : Flags → Flags) : Handler Unit :=
  if condition then writeFlag update else pure ()

def clockGettime : Handler SysTime := .issue .clockGettime .done

def World.setELog [Errno] (utilityLogWriteELog : ℕ → UtilityLogStatus) (component code : BitVec 8)
    (world : World) : World :=
  { world with elog := (systemSetELog utilityLogWriteELog component code world.elog).2 }

def World.perform [Errno] (utilityLogWriteELog : ℕ → UtilityLogStatus) :
    (op : HandlerOp) → World → op.Reply × World
  | .getELog component, world => (systemGetELog component world.elog, world)
  | .setELog component code, world =>
      ((systemSetELog utilityLogWriteELog component code world.elog).1,
        world.setELog utilityLogWriteELog component code)
  | .readFlags, world => (world.flags, world)
  | .writeFlags update, world => ((), { world with flags := update world.flags })
  | .clockGettime, world => (world.sysTime, world)

section Perform

variable [Errno] (utilityLogWriteELog : ℕ → UtilityLogStatus) (world : World)

@[simp]
theorem exec_getELog (component : BitVec 8) :
    (getELog component).exec (World.perform utilityLogWriteELog) world =
      (systemGetELog component world.elog, world) := rfl

@[simp]
theorem exec_setELog (component code : BitVec 8) :
    (setELog component code).exec (World.perform utilityLogWriteELog) world =
      ((systemSetELog utilityLogWriteELog component code world.elog).1,
        world.setELog utilityLogWriteELog component code) := rfl

@[simp]
theorem exec_readFlag {Value : Type} (flag : Flags → Value) :
    (readFlag flag).exec (World.perform utilityLogWriteELog) world =
      (flag world.flags, world) := rfl

@[simp]
theorem exec_writeFlag (update : Flags → Flags) :
    (writeFlag update).exec (World.perform utilityLogWriteELog) world =
      ((), { world with flags := update world.flags }) := rfl

@[simp]
theorem exec_writeFlagIf (condition : Bool) (update : Flags → Flags) :
    (writeFlagIf condition update).exec (World.perform utilityLogWriteELog) world =
      ((), { world with flags := if condition then update world.flags else world.flags }) := by
  cases condition <;> rfl

@[simp]
theorem exec_clockGettime :
    clockGettime.exec (World.perform utilityLogWriteELog) world = (world.sysTime, world) := rfl

end Perform

/-! ## `blob/result` -/

/-- `EVP_BLOB_RESULT_*`. -/
inductive BlobResultKind where
  | success
  | error
  | errorHttp
  | other (result : ℕ)
deriving DecidableEq, Repr

/-- `struct evp_agent_notification_blob_result`. -/
structure BlobResult where
  result : BlobResultKind
  httpStatus : BitVec 32
  error : ℤ
deriving DecidableEq, Repr

/-- Replace the field of the blob operation, bits 7-2 of the code, by that of `tmp`. -/
def replaceBlobOperation (tmp code : BitVec 8) : BitVec 8 :=
  (tmp &&& 0xFC#8) ||| (code &&& 0x3#8)

/-- The switch over the HTTP status. -/
def httpStatusBits (status : BitVec 32) : BitVec 8 :=
  match status.toNat with
  | 200 => 1#8 <<< 2
  | 400 => 2#8 <<< 2
  | 401 => 3#8 <<< 2
  | 403 => 4#8 <<< 2
  | 404 => 5#8 <<< 2
  | 500 => 6#8 <<< 2
  | 502 => 7#8 <<< 2
  | 503 => 8#8 <<< 2
  | _ => 9#8 <<< 2

/-- The switch over the error number. -/
def errorBits [Errno] (error : ℤ) : BitVec 8 :=
  if error = Errno.value .EPERM then 1#8 <<< 2
  else if error = Errno.value ErrnoName.EIO then 2#8 <<< 2
  else if error = Errno.value .E2BIG then 3#8 <<< 2
  else if error = Errno.value .ENOMEM then 4#8 <<< 2
  else if error = Errno.value .EINVAL then 5#8 <<< 2
  else if error = Errno.value .EPROTO then 6#8 <<< 2
  else if error = Errno.value .ELOOP then 7#8 <<< 2
  else if error = Errno.value .ECONNABORTED then 8#8 <<< 2
  else if error = Errno.value .EHOSTUNREACH then 9#8 <<< 2
  else if error = Errno.value .ENOTSUP then 10#8 <<< 2
  else 11#8 <<< 2

def elogHandlerBlobSuccess : Handler ℤ := do
  let code ← getELog elogEvpBlobNetworkStatus
  let tmp : BitVec 8 := 1#8 <<< 6
  let code := code &&& ~~~0x1#8
  let code := replaceBlobOperation tmp code
  let _ ← setELog elogEvpBlobNetworkStatus code
  return 0

def elogHandlerBlobHttpError [Errno] (status : BitVec 32) : Handler ℤ := do
  let tmp : BitVec 8 := 2#8 <<< 6
  let code ← getELog elogEvpBlobNetworkStatus
  if code = elogErr then
    return Errno.value .EINVAL
  else
    let tmp := tmp ||| httpStatusBits status
    let code := replaceBlobOperation tmp code
    setELog elogEvpBlobNetworkStatus code

def elogHandlerBlobOtherError [Errno] (error : ℤ) : Handler ℤ := do
  let tmp : BitVec 8 := 3#8 <<< 6
  let blobNetworkCode ← getELog elogEvpBlobNetworkStatus
  if blobNetworkCode = elogErr then
    return Errno.value .EINVAL
  else
    let tmp := tmp ||| errorBits error
    let blobNetworkCode := replaceBlobOperation tmp blobNetworkCode
    let _ ← setELog elogEvpBlobNetworkStatus blobNetworkCode
    return 0

def elogHandlerBlobResult [Errno] (event : Option BlobResult) : Handler ℤ := do
  match event with
  | none => return 0
  | some notif =>
      let _ ← (match notif.result with
        | .success => elogHandlerBlobSuccess
        | .errorHttp => elogHandlerBlobHttpError notif.httpStatus
        | .error | .other _ => elogHandlerBlobOtherError notif.error)
      return 0

/-! ## `mqtt/sync/err` -/

/-- The test of `check_sys_time` on one reading of the clock. -/
def SysTime.isInvalidTime (sysTime : SysTime) : Bool :=
  sysTime.rv ≠ 0 || sysTime.tmYear + 1900 ≤ 2000

def checkSysTime : Handler ℤ := do
  let tp ← clockGettime
  writeFlagIf tp.isInvalidTime fun flags ↦ { flags with mqttSyncErrorInvalidTime := true }
  return 0

/-- The MQTT status reported at a recovery. -/
def recoveredMqttCode (mqttCode mqttReconnectCnt : BitVec 8)
    (recvBufferTooSmall sendBufferIsFull invalidTime : Bool) : BitVec 8 :=
  let mqttCode := mqttCode &&& ~~~mqttReconnectCntMask
  let mqttCode := mqttCode |||
    ((mqttReconnectCnt <<< mqttReconnectCntShift) &&& mqttReconnectCntMask)
  let mqttCode := if recvBufferTooSmall then mqttCode ||| mqttErrRecvBuffMask else mqttCode
  let mqttCode := if sendBufferIsFull then mqttCode ||| mqttErrSendBuffMask else mqttCode
  if invalidTime then mqttCode ||| invalidTimeMask else mqttCode &&& ~~~invalidTimeMask

/-- The blob and network status reported at a recovery. -/
def recoveredBlobNetworkCode (blobNetworkCode : BitVec 8) (tcpTimerErrorTimeout : Bool) :
    BitVec 8 :=
  if tcpTimerErrorTimeout then blobNetworkCode ||| 0x2#8 else blobNetworkCode &&& ~~~0x2#8

/-- The part of `elogHandlerMqttSyncSuccess` after its read of the MQTT status. -/
def reportRecovery [Errno] (mqttCode : BitVec 8) : Handler ℤ := do
  let blobNetworkCode ← getELog elogEvpBlobNetworkStatus
  if blobNetworkCode = elogErr then
    return -Errno.value .EINVAL
  else
    let mqttReconnectCnt ← readFlag Flags.mqttReconnectCnt
    let recvBufferTooSmall ← readFlag Flags.mqttSyncErrorRecvBufferTooSmall
    let sendBufferIsFull ← readFlag Flags.mqttSyncErrorSendBufferIsFull
    let invalidTime ← readFlag Flags.mqttSyncErrorInvalidTime
    let mqttCode :=
      recoveredMqttCode mqttCode mqttReconnectCnt recvBufferTooSmall sendBufferIsFull invalidTime
    let tcpTimerErrorTimeout ← readFlag Flags.tcpTimerErrorTimeout
    let blobNetworkCode := recoveredBlobNetworkCode blobNetworkCode tcpTimerErrorTimeout
    writeFlag fun flags ↦ { flags with mqttReconnectCnt := 0 }
    writeFlag fun flags ↦ { flags with mqttSyncErrorRecvBufferTooSmall := false }
    writeFlag fun flags ↦ { flags with mqttSyncErrorSendBufferIsFull := false }
    writeFlag fun flags ↦ { flags with mqttSyncErrorInvalidTime := false }
    writeFlag fun flags ↦ { flags with tcpTimerErrorTimeout := false }
    let _ ← setELog elogEvpMqttStatus mqttCode
    let _ ← setELog elogEvpBlobNetworkStatus blobNetworkCode
    return 0

def elogHandlerMqttSyncSuccess [Errno] : Handler ℤ := do
  let mqttCode ← getELog elogEvpMqttStatus
  if mqttCode = elogErr then
    return -Errno.value .EINVAL
  else
    reportRecovery mqttCode

/-- The checks of the reason of a failure. -/
def noteReason (event : Option CString) : Handler Unit :=
  match event with
  | none => pure ()
  | some reason => do
      let check := "MQTT_ERROR_RECV_BUFFER_TOO_SMALL".toList
      writeFlagIf (strncmp reason check check.length = 0) fun flags ↦
        { flags with mqttSyncErrorRecvBufferTooSmall := true }
      let check := "MQTT_ERROR_SEND_BUFFER_IS_FULL".toList
      writeFlagIf (strncmp reason check check.length = 0) fun flags ↦
        { flags with mqttSyncErrorSendBufferIsFull := true }

/-- The MQTT status of the first failure of an outage. -/
def clearedMqttCode (mqttCode : BitVec 8) (recvBufferTooSmall sendBufferIsFull : Bool) : BitVec 8 :=
  let mqttCode := mqttCode &&& ~~~mqttReconnectCntMask
  let mqttCode := if recvBufferTooSmall then mqttCode &&& ~~~mqttErrRecvBuffMask else mqttCode
  if sendBufferIsFull then mqttCode &&& ~~~mqttErrSendBuffMask else mqttCode

/-- Clear the counter field and the error fields of the MQTT status. -/
def clearMqttFields (mqttCode : BitVec 8) : Handler ℤ := do
  let recvBufferTooSmall ← readFlag Flags.mqttSyncErrorRecvBufferTooSmall
  let sendBufferIsFull ← readFlag Flags.mqttSyncErrorSendBufferIsFull
  let mqttCode := clearedMqttCode mqttCode recvBufferTooSmall sendBufferIsFull
  setELog elogEvpMqttStatus mqttCode

def elogHandlerMqttSyncFail [Errno] (event : Option CString) : Handler ℤ := do
  let mqttCode ← getELog elogEvpMqttStatus
  if mqttCode = elogErr then
    return -Errno.value .EINVAL
  else
    let _ ← checkSysTime
    noteReason event
    let mqttReconnectCnt ← readFlag Flags.mqttReconnectCnt
    let ret ← (if mqttReconnectCnt = 0 then clearMqttFields mqttCode else pure 0)
    let mqttReconnectCnt ← readFlag Flags.mqttReconnectCnt
    writeFlagIf (mqttReconnectCnt < mqttReconnectCntMax) fun flags ↦
      { flags with mqttReconnectCnt := flags.mqttReconnectCnt + 1 }
    return ret

/-- The notification's event is never `NULL`: the first comparison reads it. -/
def elogHandlerMqttSyncResult [Errno] (reason : CString) : Handler ℤ := do
  let check := "MQTT_OK".toList
  let _ ← (if strncmp reason check check.length = 0 then elogHandlerMqttSyncSuccess
    else elogHandlerMqttSyncFail (some reason))
  return 0

/-! ## `network/error` -/

def elogHandlerNetworkError [Errno] (reason : CString) : Handler ℤ := do
  let blobNetworkCode ← getELog elogEvpBlobNetworkStatus
  if blobNetworkCode = elogErr then
    return -Errno.value .EINVAL
  else
    let check := "ssl_timeout".toList
    let blobNetworkCode :=
      if strncmp reason check check.length = 0 then blobNetworkCode ||| 0x01#8
      else blobNetworkCode
    let _ ← setELog elogEvpBlobNetworkStatus blobNetworkCode
    return 0

/-! ## Registration -/

/-- The elog part of `evp_agent_notifications_register`. -/
def regElogs (elog : ElogState) : ElogState :=
  systemRegElog elogEvpWasmStatus 0x0#8 "EVP Block Warning 3."
    (systemRegElog elogEvpMqttStatus 0x0#8 "EVP Block Warning 2."
      (systemRegElog elogEvpBlobNetworkStatus 0x40#8 "EVP Block Warning." elog))

/-- The topics subscribed to, in order. -/
def subscribedTopics : List CString :=
  ["blob/result".toList, "mqtt/sync/err".toList, "network/error".toList, "agent/status".toList]

/-- The topics are subscribed to until one subscription fails. -/
def subscribeAll (evpAgentNotificationSubscribe : CString → ℤ) : List CString → ℤ
  | [] => 0
  | topic :: topics =>
      if evpAgentNotificationSubscribe topic ≠ 0 then evpAgentNotificationSubscribe topic
      else subscribeAll evpAgentNotificationSubscribe topics

def evpAgentNotificationsRegister (evpAgentNotificationSubscribe : CString → ℤ)
    (elog : ElogState) : ℤ × ElogState :=
  (subscribeAll evpAgentNotificationSubscribe subscribedTopics, regElogs elog)

end EdgeDeviceCore.Notifications
