import EdgeDeviceCore.Data.Pieces
import EdgeDeviceCore.Platform.CString

/-!
# The debug log handler of `log.c`

`evp_agent_dlog_handler` formats a message of the agent into one buffer of at most
`LOG_BUFFER_SIZE` bytes and writes the buffer to the debug log in chunks of `LOG_CHUNK_SIZE` bytes.
A character of a string stands for one byte. The arguments of the call are given with the text
that they format to; what the C library answers is an input of the call.

The chunks written for one message are the pieces of its first `LOG_BUFFER_SIZE - 1` bytes.
-/

open EdgeDeviceCore.Data.Pieces EdgeDeviceCore.Platform

namespace EdgeDeviceCore.Dlog

/-- `UtilityLogDlogLevel`. -/
inductive UtilityLogDlogLevel where
  | trace | debug | info | warn | error | critical
deriving DecidableEq, Repr

def logBufferSize : ℕ := 4096

def logChunkSize : ℕ := 256

instance : NeZero logChunkSize := ⟨by decide⟩

/-- `EVP_FILE_NAME`. -/
def evpFileName (file : CString) : CString :=
  match strrchr file '/' with
  | some found => found.tail
  | none => file

/-- `[%s:%d] `. -/
def formatPrefix (filename : CString) (line : ℤ) : CString :=
  '[' :: filename ++ ':' :: (toString line).toList ++ [']', ' ']

def intMax : ℕ := 2147483647

/-- One call of the handler, with the message that its format and its arguments make. -/
structure LogCall where
  lvl : ℤ
  file : CString
  line : ℤ
  message : CString
  message_proper : message.Proper
  fits : (formatPrefix (evpFileName file) line).length + message.length + 1 ≤ intMax

def LogCall.filename (call : LogCall) : CString := evpFileName call.file

def LogCall.prefixLen (call : LogCall) : ℕ := (formatPrefix call.filename call.line).length

def LogCall.messageLen (call : LogCall) : ℕ := call.message.length

/-- What the C library answers during one call. -/
structure LibraryAnswers where
  prefixFormats : Bool
  messageFormats : Bool
  mallocSucceeds : Bool
  bufferFormats : Bool
  /-- What the memory holds that `malloc` returns. -/
  fresh : List Char

/-- The answers of a library whose functions all succeed. -/
def LibraryAnswers.succeeding (fresh : List Char) : LibraryAnswers where
  prefixFormats := true
  messageFormats := true
  mallocSucceeds := true
  bufferFormats := true
  fresh := fresh

/-- The text of one line of the debug log. -/
inductive DlogText where
  /-- `[%s:%d] %.*s` with the place of the string in the buffer. -/
  | chunk (filename : CString) (line : ℤ) (chunkLen offset : ℕ) (payload : CString)
  /-- `[%s:%d] Log message truncated: message size %d bytes, buffer size %d bytes, truncated %d
  bytes`. -/
  | truncated (filename : CString) (line : ℤ) (messageSize bufferSize truncatedSize : ℤ)
  /-- `EVP_AGENT_ERR`. -/
  | agentError (text : String)
deriving DecidableEq, Repr

/-- One call of `UtilityLogWriteDLog` with `MODULE_ID_SYSTEM`. -/
structure DlogWrite where
  level : UtilityLogDlogLevel
  text : DlogText
deriving DecidableEq, Repr

def toLogLevel (lvl : ℤ) : UtilityLogDlogLevel :=
  if lvl = 0 then .trace
  else if lvl = 1 then .debug
  else if lvl = 2 then .info
  else if lvl = 3 then .warn
  else if lvl = 4 then .error
  else .critical

/-- What a buffer of `size` bytes holds after `vsnprintf`. -/
def vsnprintf (fresh : List Char) (size : ℕ) (message : CString) : List Char :=
  message.take (size - 1) ++ Char.ofNat 0 :: fresh.drop (min message.length (size - 1) + 1)

/-- `%.*s`: as many bytes of a string as the precision allows. -/
def formatPrecision (chunkLen : ℕ) (memory : List Char) : CString :=
  readString (memory.take chunkLen)

/-- The loop over the buffer, from index `i` on. -/
def writeChunks (call : LogCall) (buf : List Char) (bufLen i : ℕ) : List DlogWrite :=
  if i < bufLen then
    let remaining := bufLen - i
    let chunkLen := if remaining > logChunkSize then logChunkSize else remaining
    ⟨toLogLevel call.lvl, .chunk call.filename call.line chunkLen i
      (formatPrecision chunkLen (buf.drop i))⟩ :: writeChunks call buf bufLen (i + logChunkSize)
  else []
termination_by bufLen - i
decreasing_by
  have hsize := NeZero.pos logChunkSize
  omega

def LogCall.totalLen (call : LogCall) : ℕ := call.prefixLen + call.messageLen + 1

def LogCall.logTruncated (call : LogCall) : Bool := call.totalLen > logBufferSize

def LogCall.bufferSize (call : LogCall) : ℕ :=
  if call.logTruncated then logBufferSize else call.totalLen

def truncationNotice (call : LogCall) : DlogWrite :=
  ⟨toLogLevel call.lvl, .truncated call.filename call.line call.totalLen logBufferSize
    (call.totalLen - logBufferSize)⟩

/-- The lines that one call writes. -/
def evpAgentDlogHandler (call : LogCall) (answers : LibraryAnswers) : List DlogWrite :=
  if !answers.prefixFormats || !answers.messageFormats then
    [⟨.error, .agentError "Log formatting error (vsnprintf failed)"⟩]
  else if !answers.mallocSucceeds then
    [⟨.error, .agentError "Memory allocation failed"⟩]
  else if !answers.bufferFormats then
    [⟨.error, .agentError "Log formatting error (vsnprintf failed)"⟩]
  else
    let buf := vsnprintf answers.fresh call.bufferSize call.message
    writeChunks call buf (strlen buf) 0 ++
      if call.logTruncated then [truncationNotice call] else []

/-! ## What is written in chunks -/

/-- One chunk: where it starts in the buffer, how many bytes it may take, and its bytes. -/
structure Chunk where
  offset : ℕ
  chunkLen : ℕ
  payload : CString
deriving DecidableEq, Repr

def DlogText.chunk? : DlogText → Option Chunk
  | .chunk _ _ chunkLen offset payload => some ⟨offset, chunkLen, payload⟩
  | _ => none

/-- The chunks among the lines of a log, in order. -/
def chunks (writes : List DlogWrite) : List Chunk := writes.filterMap fun write ↦ write.text.chunk?

@[simp]
theorem chunks_append (writes rest : List DlogWrite) :
    chunks (writes ++ rest) = chunks writes ++ chunks rest := List.filterMap_append

/-- The part of the message that the buffer holds. -/
def LogCall.buffered (call : LogCall) : CString := call.message.take (logBufferSize - 1)

theorem LogCall.buffered_proper (call : LogCall) : call.buffered.Proper :=
  call.message_proper.take _

theorem LogCall.length_buffered (call : LogCall) :
    call.buffered.length = min call.messageLen 4095 := by
  rw [LogCall.buffered, List.length_take, Nat.min_comm]
  rfl

/-- A buffer of the required size holds the whole message, as its prefix is not stored. -/
theorem LogCall.take_bufferSize (call : LogCall) :
    call.message.take (call.bufferSize - 1) = call.buffered := by
  rw [LogCall.bufferSize]
  split
  · rfl
  · next htruncated =>
      have htotal : call.prefixLen + call.message.length + 1 ≤ logBufferSize := by
        simpa [LogCall.logTruncated, LogCall.totalLen, LogCall.messageLen] using htruncated
      rw [LogCall.buffered, List.take_of_length_le, List.take_of_length_le]
      · omega
      · rw [LogCall.totalLen, LogCall.messageLen]
        omega

/-- The buffer after formatting: the string that the loop reads, and its terminator. -/
theorem vsnprintf_bufferSize (call : LogCall) (fresh : List Char) :
    ∃ stale, vsnprintf fresh call.bufferSize call.message =
      call.buffered ++ Char.ofNat 0 :: stale :=
  ⟨_, by rw [vsnprintf, call.take_bufferSize]⟩

section Loop

variable {call : LogCall} {text : CString}

/-- While the loop runs, a chunk is the next piece of the string. -/
theorem formatPrecision_drop (hproper : text.Proper) (stale : List Char) {i chunkLen : ℕ}
    (h : i + chunkLen ≤ text.length) :
    formatPrecision chunkLen ((text ++ Char.ofNat 0 :: stale).drop i) =
      (text.drop i).take chunkLen := by
  have hlength : (text.drop i).length = text.length - i := List.length_drop
  rw [formatPrecision, List.drop_append_of_le_length (by omega),
    List.take_append_of_le_length (by omega)]
  exact readString_of_proper ((hproper.drop i).take chunkLen)

/-- The chunk that the loop writes at index `i`. -/
def chunkAt (text : CString) (i : ℕ) : Chunk where
  offset := i
  chunkLen := min logChunkSize (text.length - i)
  payload := (text.drop i).take logChunkSize

/-- One turn of the loop. -/
theorem chunks_writeChunks_of_lt (hproper : text.Proper) (stale : List Char) {i : ℕ}
    (h : i < text.length) :
    chunks (writeChunks call (text ++ Char.ofNat 0 :: stale) text.length i) =
      chunkAt text i ::
        chunks (writeChunks call (text ++ Char.ofNat 0 :: stale) text.length
          (i + logChunkSize)) := by
  have hlen : (if text.length - i > logChunkSize then logChunkSize else text.length - i) =
      min logChunkSize (text.length - i) := by
    split <;> omega
  have htake : (text.drop i).take (min logChunkSize (text.length - i)) =
      (text.drop i).take logChunkSize := by
    rw [← List.length_drop, ← List.take_eq_take_min]
  rw [writeChunks, if_pos h]
  simp only [hlen]
  rw [formatPrecision_drop hproper stale (by omega), htake]
  rfl

theorem chunks_writeChunks_of_le (stale : List Char) {i : ℕ} (h : text.length ≤ i) :
    chunks (writeChunks call (text ++ Char.ofNat 0 :: stale) text.length i) = [] := by
  rw [writeChunks, if_neg (Nat.not_lt.mpr h)]
  rfl

/-- The loop, started at any index, writes the pieces of the rest of the string and stays inside
the string. -/
theorem writeChunks_spec (hproper : text.Proper) (stale : List Char) (i : ℕ) :
    (chunks (writeChunks call (text ++ Char.ofNat 0 :: stale) text.length i)).map Chunk.payload =
        pieces logChunkSize (text.drop i) ∧
      ∀ chunk ∈ chunks (writeChunks call (text ++ Char.ofNat 0 :: stale) text.length i),
        chunk.offset + chunk.chunkLen ≤ text.length := by
  induction hrest : text.length - i using Nat.strong_induction_on generalizing i with
  | _ rest ih =>
      by_cases h : i < text.length
      · have hsize := NeZero.pos logChunkSize
        have hne : text.drop i ≠ [] := by
          rw [ne_eq, List.drop_eq_nil_iff]
          omega
        obtain ⟨hpayload, hinside⟩ :=
          ih (text.length - (i + logChunkSize)) (by omega) (i + logChunkSize) rfl
        rw [chunks_writeChunks_of_lt hproper stale h]
        constructor
        · rw [List.map_cons, hpayload, pieces_of_ne_nil hne, List.drop_drop]
          rfl
        · rw [List.forall_mem_cons]
          constructor
          · have hchunk : (chunkAt text i).chunkLen ≤ text.length - i := Nat.min_le_right _ _
            have hoffset : (chunkAt text i).offset = i := rfl
            omega
          · exact hinside
      · rw [chunks_writeChunks_of_le stale (Nat.le_of_not_lt h)]
        constructor
        · rw [List.drop_eq_nil_of_le (Nat.le_of_not_lt h), pieces_nil]
          rfl
        · simp

end Loop

/-- With a library that succeeds, one call writes the pieces of the buffered part of the message,
each read from inside it. -/
theorem evpAgentDlogHandler_spec (call : LogCall) (fresh : List Char) :
    (chunks (evpAgentDlogHandler call (.succeeding fresh))).map Chunk.payload =
        pieces logChunkSize call.buffered ∧
      ∀ chunk ∈ chunks (evpAgentDlogHandler call (.succeeding fresh)),
        chunk.offset + chunk.chunkLen ≤ call.buffered.length := by
  obtain ⟨stale, hbuf⟩ := vsnprintf_bufferSize call fresh
  have hstrlen : strlen (vsnprintf fresh call.bufferSize call.message) = call.buffered.length := by
    rw [strlen, hbuf, readString_append call.buffered_proper]
  have hchunks : chunks (evpAgentDlogHandler call (.succeeding fresh)) =
      chunks (writeChunks call (call.buffered ++ Char.ofNat 0 :: stale)
        call.buffered.length 0) := by
    have hnotice : chunks (if call.logTruncated then [truncationNotice call] else []) = [] := by
      split <;> rfl
    rw [← hbuf, ← hstrlen]
    simp only [evpAgentDlogHandler, LibraryAnswers.succeeding, Bool.not_true, Bool.or_self,
      Bool.false_eq_true, ↓reduceIte, chunks_append, hnotice, List.append_nil]
  rw [hchunks]
  exact writeChunks_spec call.buffered_proper stale 0

/-- **The chunks lose and repeat nothing.** They are non-empty pieces of the first `4095` bytes of
the message, in order and all but the last of full size, and reading them stays inside the
formatted string. -/
theorem evpAgentDlogHandler_chunks (call : LogCall) (fresh : List Char) :
    let written := chunks (evpAgentDlogHandler call (.succeeding fresh))
    (written.map Chunk.payload).flatten = call.message.take 4095 ∧
      (∀ chunk ∈ written, chunk.payload ≠ [] ∧ chunk.payload.length ≤ 256) ∧
      (∀ chunk ∈ written.dropLast, chunk.payload.length = 256) ∧
      (∀ chunk ∈ written, chunk.offset + chunk.chunkLen ≤ min call.messageLen 4095) ∧
      written.length = (min call.messageLen 4095 + 256 - 1) / 256 := by
  intro written
  obtain ⟨hpayload, hinside⟩ := evpAgentDlogHandler_spec call fresh
  have hpiece {chunk : Chunk} (h : chunk ∈ written) :
      chunk.payload ∈ pieces logChunkSize call.buffered :=
    hpayload ▸ List.mem_map_of_mem h
  refine ⟨?_, fun chunk h ↦ ?_, fun chunk h ↦ ?_, fun chunk h ↦ ?_, ?_⟩
  · rw [hpayload, flatten_pieces]
    rfl
  · exact ne_nil_and_length_le_of_mem (hpiece h)
  · have hlast : chunk.payload ∈ (pieces logChunkSize call.buffered).dropLast := by
      rw [← hpayload, ← List.map_dropLast]
      exact List.mem_map_of_mem h
    exact length_of_mem_dropLast hlast
  · rw [← call.length_buffered]
    exact hinside chunk h
  · calc written.length
        = (written.map Chunk.payload).length := by rw [List.length_map]
      _ = (call.buffered.length + logChunkSize - 1) / logChunkSize := by
          rw [hpayload, length_pieces]
      _ = (min call.messageLen 4095 + 256 - 1) / 256 := by
          rw [call.length_buffered]
          rfl

end EdgeDeviceCore.Dlog
