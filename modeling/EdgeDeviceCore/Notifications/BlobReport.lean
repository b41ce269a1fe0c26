import EdgeDeviceCore.Notifications.MqttReport

/-!
# The blob and network status

Three kinds of handler write the first status byte, each its own fields. After any run the byte is
the one that its documented format gives for the history: the row of the last blob result, the TCP
timer in the last outage that has ended, and the SSL timeouts since the last success.
-/

open EdgeDeviceCore.Elog EdgeDeviceCore.Platform

namespace EdgeDeviceCore.Notifications

/-! ## The documented history -/

/-- The blob result of a notification that carries one. -/
def Event.blobResult? : Event → Option BlobResult
  | .notify (.blobResult event) _ => event
  | _ => none

def Event.succeeds (event : Event) : Bool :=
  event.blobResult?.any fun notif ↦ notif.result = .success

def Event.sslTimesOut : Event → Bool
  | .notify (.networkError reason) _ => reason.startsWith "ssl_timeout"
  | _ => false

/-- The events up to the last recovery, none of them if there was none. -/
def untilRecovery (events : List Event) : List Event :=
  events.rdropWhile fun event ↦ !event.recovers

/-- The events since the last blob result that was a success, or since the registration. -/
def sinceSuccess (events : List Event) : List Event :=
  events.rtakeWhile fun event ↦ !event.succeeds

def documentedOperation [Errno] (events : List Event) : BlobOperation :=
  match (events.filterMap Event.blobResult?).getLast? with
  | none => .success
  | some notif => .ofResult notif

/-- The fields that the format gives for a history. -/
def documentedStatus [Errno] (events : List Event) : BlobNetworkStatus where
  blobOperation := documentedOperation events
  tcpCloseTimeout := (outage (untilRecovery events).dropLast).any Event.setsTcpTimer
  sslTimeout := (sinceSuccess events).any Event.sslTimesOut

/-! ## Steps of the history -/

section History

variable [Errno] {events : List Event} {event : Event}

theorem documentedOperation_concat :
    documentedOperation (events ++ [event]) =
      (event.blobResult?.map BlobOperation.ofResult).getD (documentedOperation events) := by
  unfold documentedOperation
  cases h : event.blobResult? with
  | none => simp [List.filterMap_append, h]
  | some notif => simp [List.filterMap_append, h]

omit [Errno] in
theorem untilRecovery_concat :
    untilRecovery (events ++ [event]) =
      if event.recovers then events ++ [event] else untilRecovery events := by
  rw [untilRecovery, List.rdropWhile_concat]
  cases event.recovers <;> rfl

omit [Errno] in
theorem sinceSuccess_concat :
    sinceSuccess (events ++ [event]) =
      if event.succeeds then [] else sinceSuccess events ++ [event] := by
  rw [sinceSuccess, List.rtakeWhile_concat]
  cases event.succeeds <;> rfl

/-- What a step does to each field of the byte. -/
theorem step_blobNetwork (monitor : Monitor) :
    (monitor.step event).blobNetwork =
      ⟨(event.blobResult?.map BlobOperation.ofResult).getD monitor.blobNetwork.blobOperation,
        if event.recovers then monitor.flags.tcpTimerErrorTimeout
          else monitor.blobNetwork.tcpCloseTimeout,
        !event.succeeds && (monitor.blobNetwork.sslTimeout || event.sslTimesOut)⟩ := by
  cases event with
  | notify notification sysTime =>
      cases notification with
      | blobResult event =>
          cases event with
          | none =>
              simp [Monitor.step, Monitor.notify, Event.blobResult?, Event.recovers,
                Event.succeeds, Event.sslTimesOut]
          | some notif =>
              simp [Monitor.step, Monitor.notify, BlobNetworkStatus.noteResult, Event.blobResult?,
                Event.recovers, Event.succeeds, Event.sslTimesOut, Bool.and_comm]
      | mqttSyncErr reason =>
          cases hok : reason.startsWith "MQTT_OK" <;>
            simp [Monitor.step, Monitor.notify, Event.recovers, hok, Monitor.recover, Monitor.fail,
              BlobNetworkStatus.noteRecovery, Event.blobResult?, Event.succeeds, Event.sslTimesOut]
      | networkError reason =>
          simp [Monitor.step, Monitor.notify, BlobNetworkStatus.noteNetworkError,
            Event.blobResult?, Event.recovers, Event.succeeds, Event.sslTimesOut]
      | agentStatus args inputs =>
          simp [Monitor.step, Monitor.notify, Event.blobResult?, Event.recovers, Event.succeeds,
            Event.sslTimesOut]
  | _ =>
      simp [Monitor.step, Event.blobResult?, Event.recovers, Event.succeeds, Event.sslTimesOut]

theorem documentedStatus_concat :
    documentedStatus (events ++ [event]) =
      ⟨(event.blobResult?.map BlobOperation.ofResult).getD (documentedStatus events).blobOperation,
        if event.recovers then (outage events).any Event.setsTcpTimer
          else (documentedStatus events).tcpCloseTimeout,
        !event.succeeds && ((documentedStatus events).sslTimeout || event.sslTimesOut)⟩ := by
  rw [documentedStatus, documentedOperation_concat, untilRecovery_concat, sinceSuccess_concat]
  cases event.recovers <;> cases event.succeeds <;> simp [documentedStatus]

theorem blobNetwork_run (events : List Event) :
    (Monitor.run events).blobNetwork = documentedStatus events := by
  induction events using List.reverseRecOn with
  | nil => rfl
  | append_singleton events event ih =>
      rw [Monitor.run_concat, step_blobNetwork, documentedStatus_concat, flags_run, ih]
      rfl

end History

/-- **The blob and network status.** After every run the stored byte is the documented one. -/
theorem blobNetworkStatus_documented [Errno] (utilityLogWriteELog : ℕ → UtilityLogStatus)
    (start : FirstRegistration) (events : List Event) :
    systemGetELog elogEvpBlobNetworkStatus (run utilityLogWriteELog start events).elog =
      (documentedStatus events).encode := by
  rw [(simulates_run utilityLogWriteELog start events).getBlobNetwork, blobNetwork_run]

end EdgeDeviceCore.Notifications
