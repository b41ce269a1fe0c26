import EdgeDeviceCore.Dlog.Handler

/-!
# The truncation notice of the debug log

The handler decides from the prefix, the message and the terminator together whether a message is
truncated, but the buffer holds the message alone: the prefix is written anew with each chunk. So
near the limit the notice speaks of bytes that were not dropped, and beyond it counts too many.
-/

open EdgeDeviceCore.Data.Pieces EdgeDeviceCore.Platform

namespace EdgeDeviceCore.Dlog

/-- The number of truncated bytes that a notice reports. -/
def DlogText.truncated? : DlogText → Option ℤ
  | .truncated _ _ _ _ truncatedSize => some truncatedSize
  | _ => none

/-- What the notices among the lines of a log report. -/
def notices (writes : List DlogWrite) : List ℤ :=
  writes.filterMap fun write ↦ write.text.truncated?

/-- The number of bytes of the message that no chunk carries. -/
def droppedBytes (message : CString) (writes : List DlogWrite) : ℤ :=
  message.length - ((chunks writes).map Chunk.payload).flatten.length

/-- There is a notice if and only if some byte was dropped, and it reports how many were. -/
def NoticeExact (message : CString) (writes : List DlogWrite) : Prop :=
  (notices writes ≠ [] ↔ droppedBytes message writes ≠ 0) ∧
    ∀ truncatedSize ∈ notices writes, truncatedSize = droppedBytes message writes

instance (message : CString) (writes : List DlogWrite) : Decidable (NoticeExact message writes) :=
  inferInstanceAs (Decidable (_ ∧ _))

/-- The chunk loop writes no notice. -/
theorem notices_writeChunks (call : LogCall) (buf : List Char) (bufLen i : ℕ) :
    notices (writeChunks call buf bufLen i) = [] := by
  induction hrest : bufLen - i using Nat.strong_induction_on generalizing i with
  | _ rest ih =>
      have hsize := NeZero.pos logChunkSize
      rw [writeChunks]
      split
      · exact ih (bufLen - (i + logChunkSize)) (by omega) _ rfl
      · rfl

theorem notices_evpAgentDlogHandler (call : LogCall) (fresh : List Char) :
    notices (evpAgentDlogHandler call (.succeeding fresh)) =
      if call.logTruncated then [(call.totalLen : ℤ) - 4096] else [] := by
  have happend (writes rest : List DlogWrite) :
      notices (writes ++ rest) = notices writes ++ notices rest := List.filterMap_append
  simp only [evpAgentDlogHandler, LibraryAnswers.succeeding, Bool.not_true, Bool.or_self,
    Bool.false_eq_true, ↓reduceIte, happend, notices_writeChunks, List.nil_append]
  split <;> rfl

theorem droppedBytes_evpAgentDlogHandler (call : LogCall) (fresh : List Char) :
    droppedBytes call.message (evpAgentDlogHandler call (.succeeding fresh)) =
      call.messageLen - min (call.messageLen : ℤ) 4095 := by
  rw [droppedBytes, (evpAgentDlogHandler_spec call fresh).1, flatten_pieces, call.length_buffered,
    Nat.cast_min]
  rfl

/-- The prefix takes at least the two brackets, the colon and the blank. -/
theorem LogCall.four_le_prefixLen (call : LogCall) : 4 ≤ call.prefixLen := by
  simp only [LogCall.prefixLen, formatPrefix, List.cons_append, List.length_cons,
    List.length_append, List.length_nil]
  omega

/-- **The notice is exact** for just those messages that fit the buffer together with the prefix,
for which there is none. -/
theorem noticeExact_iff (call : LogCall) (fresh : List Char) :
    NoticeExact call.message (evpAgentDlogHandler call (.succeeding fresh)) ↔
      call.prefixLen + call.messageLen + 1 ≤ 4096 := by
  have hprefix := call.four_le_prefixLen
  have htruncated : call.logTruncated = true ↔ 4096 < call.prefixLen + call.messageLen + 1 :=
    decide_eq_true_iff
  have htotal : (call.totalLen : ℤ) = call.prefixLen + call.messageLen + 1 := rfl
  rw [NoticeExact, notices_evpAgentDlogHandler, droppedBytes_evpAgentDlogHandler]
  by_cases h : call.logTruncated = true
  · have hlong := htruncated.mp h
    rw [if_pos h]
    constructor
    · rintro ⟨-, hexact⟩
      have hreported := hexact _ (List.mem_singleton_self _)
      omega
    · omega
  · have hshort := htruncated.not.mp h
    rw [if_neg h]
    simp only [ne_eq, not_true_eq_false, List.not_mem_nil, false_implies, implies_true, and_true,
      false_iff]
    omega

/-- A message that fills the buffer, of which the prefix does not leave any byte out. -/
def fullMessage : LogCall where
  lvl := 4
  file := "evp/hub.c".toList
  line := 42
  message := List.replicate 4090 'x'
  message_proper := by
    intro h
    exact absurd (List.eq_of_mem_replicate h) (by decide)
  fits := by
    rw [List.length_replicate]
    decide

theorem messageLen_fullMessage : fullMessage.messageLen = 4090 := List.length_replicate

theorem prefixLen_fullMessage : fullMessage.prefixLen = 11 := by decide

/-- All bytes of the message are written, and yet the notice reports a truncation. -/
theorem not_noticeExact_fullMessage :
    ¬ NoticeExact fullMessage.message (evpAgentDlogHandler fullMessage (.succeeding [])) := by
  have hdropped : droppedBytes fullMessage.message
      (evpAgentDlogHandler fullMessage (.succeeding [])) = 0 := by
    rw [droppedBytes_evpAgentDlogHandler, messageLen_fullMessage]
    decide
  have hnotices : notices (evpAgentDlogHandler fullMessage (.succeeding [])) = [6] := by
    rw [notices_evpAgentDlogHandler, LogCall.logTruncated, LogCall.totalLen,
      messageLen_fullMessage, prefixLen_fullMessage]
    rfl
  intro h
  rw [NoticeExact, hnotices, hdropped] at h
  exact absurd h.1 (by decide)

end EdgeDeviceCore.Dlog
