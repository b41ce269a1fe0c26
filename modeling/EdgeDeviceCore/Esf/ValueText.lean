import EdgeDeviceCore.Esf.ReadConfig

/-!
# The text of a configuration value

A key is read whole when its value is the complete text of its source with a terminator behind it.
For the client certificate and key this is so exactly when the file fits its buffer and holds no
zero byte: a longer file is cut silently, and the size of any file ends at its first zero byte.
-/

open EdgeDeviceCore.Platform EdgeDeviceCore.Data

namespace EdgeDeviceCore.Esf.ReadConfig

section Content

variable [Errno] {answers : CertKeyAnswers} {key : ClientKey} {content : List Char}

/-- The content of the selected file, if it can be read. -/
def selectedContent (answers : CertKeyAnswers) (key : ClientKey) : Option (List Char) :=
  if (getCertKeyPath answers.path key).1 = 0 then
    match (getCertKeyPath answers.path key).2.map answers.file with
    | some (.content content) => some content
    | _ => none
  else none

theorem readCertKey_of_none (h : selectedContent answers key = none) (buffer : Buffer Char)
    (bufSize : ℕ) : (readCertKey answers key buffer bufSize).1 ≠ 0 := by
  unfold selectedContent at h
  unfold readCertKey
  dsimp only
  by_cases hret : (getCertKeyPath answers.path key).1 = 0
  · rw [if_pos hret] at h
    rw [if_neg (not_not_intro hret)]
    split
    · next hfile =>
        rw [hfile] at h
        cases h
    · exact Errno.neg_value_ne_zero _
  · rwa [if_pos hret]

theorem readCertKey_of_some (h : selectedContent answers key = some content)
    (buffer : Buffer Char) (bufSize : ℕ) :
    readCertKey answers key buffer bufSize =
      if (content.take (bufSize - 1)).length = 0 then
        (-Errno.value ErrnoName.EIO, buffer.copy 0 (content.take (bufSize - 1)))
      else (0, (buffer.copy 0 (content.take (bufSize - 1))).store (bufSize - 1) nul) := by
  unfold selectedContent at h
  unfold readCertKey
  dsimp only
  by_cases hret : (getCertKeyPath answers.path key).1 = 0
  · rw [if_pos hret] at h
    rw [if_neg (not_not_intro hret)]
    cases hfile : (getCertKeyPath answers.path key).2.map answers.file with
    | none =>
        rw [hfile] at h
        cases h
    | some answer =>
        rw [hfile] at h
        cases answer with
        | content other =>
            obtain rfl := Option.some.inj h
            rfl
        | unopenable => cases h
        | unreadable => cases h
  · rw [if_neg hret] at h
    cases h

end Content

/-! ## The cells of a filled buffer -/

/-- A text at the front of a buffer of `size` zero bytes. -/
def padded (text : List Char) (size : ℕ) : List Char :=
  text ++ List.replicate (size - text.length) nul

theorem padded_eq_append {text : List Char} {size : ℕ} (h : text.length < size) :
    padded text size = text ++ nul :: List.replicate (size - text.length - 1) nul := by
  rw [padded, ← List.replicate_succ]
  congr 2
  omega

theorem strlen_padded {text : List Char} {size : ℕ} (h : text.length < size) :
    strlen (padded text size) = strlen text := by
  rw [padded_eq_append h, strlen, readString_append_nul, strlen]

theorem cells_copy_filled {text : List Char} {size : ℕ} (h : text.length ≤ size) :
    ((Buffer.filled size nul).copy 0 text).cells = padded text size := by
  rw [Buffer.cells_copy_zero (by rwa [Buffer.length_filled]), Buffer.filled, List.drop_replicate,
    padded]

/-- The text of a padded, shortened content is the content. -/
theorem strlen_padded_take_iff {content : List Char} {maxSize : ℕ} :
    strlen (padded (content.take maxSize) (maxSize + 1)) = content.length ↔
      content.length ≤ maxSize ∧ CString.Proper content := by
  have htake : (content.take maxSize).length < maxSize + 1 :=
    Nat.lt_succ_of_le (List.length_take_le _ _)
  rw [strlen_padded htake]
  constructor
  · intro h
    have hle : content.length ≤ maxSize := by
      calc content.length
          = strlen (content.take maxSize) := h.symm
        _ ≤ (content.take maxSize).length := (List.takeWhile_prefix _).length_le
        _ ≤ maxSize := List.length_take_le _ _
    rw [List.take_of_length_le hle, strlen_eq_length_iff] at h
    exact ⟨hle, h⟩
  · intro h
    rw [List.take_of_length_le h.1, strlen_eq_length_iff]
    exact h.2

/-- A string of the proxy cache, shortened to leave room for the terminator. -/
theorem cells_strncpy_terminated (source : CString) {maxSize : ℕ} (hpos : 0 < maxSize) :
    ((strncpy (.filled (maxSize + 1) nul) source maxSize).store (maxSize - 1) nul).cells =
      padded ((readString source).take (maxSize - 1)) (maxSize + 1) := by
  have hlength : (((readString source).take maxSize).rightpad maxSize nul).length = maxSize := by
    rw [List.length_rightpad, List.length_take]
    omega
  rw [Buffer.cells_store, strncpy, cells_copy_filled (by omega)]
  generalize readString source = text at hlength ⊢
  ext index : 1
  simp only [padded, List.rightpad, List.getElem?_set, List.getElem?_append, List.getElem?_take,
    List.getElem?_replicate, List.length_append, List.length_take, List.length_replicate]
  grind

/-- What a getter leaves in a buffer of zero bytes of the size that it is given. -/
def GetterResult.bytes {size : ℕ} (result : GetterResult size) : List Char :=
  (result.run (.filled size nul)).2.cells

@[simp]
theorem GetterResult.length_bytes {size : ℕ} (result : GetterResult size) :
    result.bytes.length = size := by
  rw [bytes, run, Buffer.length_storeAll, Buffer.length_filled]

theorem cells_getter {size : ℕ} (result : GetterResult size) :
    (result.run (.filled (size + 1) nul)).2.cells = padded result.bytes (size + 1) := by
  have hstores : ∀ store ∈ result.stores.map fun store ↦ (store.1.val, store.2),
      store.1 < (List.replicate size nul).length := by
    intro store hstore
    obtain ⟨write, -, rfl⟩ := List.mem_map.mp hstore
    rw [List.length_replicate]
    exact write.1.isLt
  rw [padded, result.length_bytes, Nat.add_sub_cancel_left, List.replicate_one]
  rw [GetterResult.run, Buffer.filled, List.replicate_succ']
  exact Buffer.cells_storeAll_append hstores

section Cells

variable [Errno] [MaxSizes] {sources : Sources}

theorem filledBuffer_proxy {key : ProxyKey} {string : CString}
    (h : sources.proxyCache.cached key = some string) :
    filledBuffer sources (.proxy key) =
      (true, (strncpy (.filled ((SizedKey.proxy key).maxSize + 1) nul) string
        (SizedKey.proxy key).maxSize).store ((SizedKey.proxy key).maxSize - 1) nul) := by
  unfold filledBuffer fillBuffer
  dsimp only
  rw [h]

theorem filledBuffer_proxy_of_none {key : ProxyKey} (h : sources.proxyCache.cached key = none) :
    (filledBuffer sources (.proxy key)).1 = false := by
  unfold filledBuffer fillBuffer
  dsimp only
  rw [h]

/-- A readable file stands in its buffer as far as it fits. -/
theorem filledBuffer_client {key : ClientKey} {content : List Char}
    (h : selectedContent sources.certKey key = some content) (hcontent : content ≠ []) :
    (filledBuffer sources (.client key)).1 = true ∧
      (filledBuffer sources (.client key)).2.cells =
        padded (content.take (SizedKey.client key).maxSize)
          ((SizedKey.client key).maxSize + 1) := by
  have hpos := SizedKey.maxSize_pos (.client key)
  rw [filledBuffer, fillBuffer_client, readCertKey_of_some h]
  generalize (SizedKey.client key).maxSize = maxSize at hpos ⊢
  have hlength : (content.take maxSize).length ≤ maxSize := List.length_take_le _ _
  have hbytes : (content.take maxSize).length ≠ 0 := by
    rw [List.length_take]
    have := List.length_pos_iff.mpr hcontent
    omega
  have hcopied : Sound maxSize ((Buffer.filled (maxSize + 1) nul).copy 0 (content.take maxSize)) :=
    (sound_filled maxSize).copy hlength
  rw [Nat.add_sub_cancel, if_neg hbytes]
  refine ⟨rfl, ?_⟩
  -- the last byte already is a terminator
  rw [Buffer.cells_store_of_getElem? hcopied.last, cells_copy_filled (by omega)]

/-- A file that cannot be read, or that is empty, is a failure. -/
theorem filledBuffer_client_of_unread {key : ClientKey}
    (h : ∀ content, selectedContent sources.certKey key = some content → content = []) :
    (filledBuffer sources (.client key)).1 = false := by
  rw [filledBuffer, fillBuffer_client]
  apply decide_eq_false
  cases hselected : selectedContent sources.certKey key with
  | none => exact readCertKey_of_none hselected _ _
  | some content =>
      obtain rfl := h content hselected
      rw [readCertKey_of_some hselected, if_pos (by rw [List.take_nil, List.length_nil])]
      exact Errno.neg_value_ne_zero _

end Cells

/-! ## Client certificates and keys -/

section Client

variable [Errno] [MaxSizes] [KeyNumbers] {sources : Sources}

theorem readConfig_eq_some_iff {key : SizedKey} {config : Config} :
    (evpAgentEsfReadConfig sources (KeyNumbers.number key)).config = some config ↔
      sources.calloc = true ∧ sources.malloc = true ∧ (filledBuffer sources key).1 = true ∧
        config = ⟨KeyNumbers.number key, (filledBuffer sources key).2.cells,
          strlen (filledBuffer sources key).2.cells + 1⟩ := by
  rw [readConfig_number]
  cases sources.calloc <;> cases sources.malloc <;> cases (filledBuffer sources key).1 <;>
    simp [eq_comm]

/-- A client certificate or key is read whole or not at all. -/
def ReadWhole (sources : Sources) (key : ClientKey) : Prop :=
  ∀ config, (evpAgentEsfReadConfig sources (KeyNumbers.number (.client key))).config =
    some config →
      ∃ content, selectedContent sources.certKey key = some content ∧
        config.size = content.length + 1 ∧ config.value.take config.size = content ++ [nul]

/-- Where nothing else fails, a file that is read whole fits its buffer and holds no zero byte. -/
theorem ReadWhole.fits {key : ClientKey} (h : ReadWhole sources key) {content : List Char}
    (hcalloc : sources.calloc = true) (hmalloc : sources.malloc = true)
    (hselected : selectedContent sources.certKey key = some content) :
    content.length ≤ (SizedKey.client key).maxSize ∧ CString.Proper content := by
  by_cases hcontent : content = []
  · rw [hcontent]
    exact ⟨Nat.zero_le _, List.not_mem_nil⟩
  · obtain ⟨hok, hcells⟩ := filledBuffer_client hselected hcontent
    obtain ⟨other, hother, hsize, -⟩ :=
      h _ (readConfig_eq_some_iff.mpr ⟨hcalloc, hmalloc, hok, rfl⟩)
    obtain rfl := Option.some.inj (hselected.symm.trans hother)
    dsimp only at hsize
    rw [hcells, Nat.add_right_cancel_iff] at hsize
    exact strlen_padded_take_iff.mp hsize

/-- A read is whole exactly when the file has no more bytes than its size allows and none of them
is zero, or an allocation fails. -/
theorem readWhole_iff (sources : Sources) (key : ClientKey) :
    ReadWhole sources key ↔
      (sources.calloc = true → sources.malloc = true →
        ∀ content, selectedContent sources.certKey key = some content →
          content.length ≤ (SizedKey.client key).maxSize ∧ CString.Proper content) := by
  constructor
  · intro h hcalloc hmalloc content hselected
    exact h.fits hcalloc hmalloc hselected
  · intro h config hread
    obtain ⟨hcalloc, hmalloc, hok, rfl⟩ := readConfig_eq_some_iff.mp hread
    by_cases hunread : ∀ content, selectedContent sources.certKey key = some content → content = []
    · rw [filledBuffer_client_of_unread hunread] at hok
      cases hok
    · push Not at hunread
      obtain ⟨content, hselected, hcontent⟩ := hunread
      obtain ⟨-, hcells⟩ := filledBuffer_client hselected hcontent
      obtain ⟨hle, hproper⟩ := h hcalloc hmalloc content hselected
      have hlength : strlen (filledBuffer sources (.client key)).2.cells = content.length := by
        rw [hcells]
        exact strlen_padded_take_iff.mpr ⟨hle, hproper⟩
      refine ⟨content, hselected, ?_, ?_⟩
      · rw [hlength]
      · dsimp only
        rw [hlength, hcells, List.take_of_length_le hle, padded_eq_append (by omega),
          List.take_length_add_append, List.take_succ_cons, List.take_zero]

end Client

/-- A directory with one client key of a given content. -/
def keyFile (content : List Char) : CertKeyAnswers where
  path := ⟨none, some ["dev_key.pem".toList], true⟩
  file _ := .content content

/-- Nothing but the client key can be read. -/
def keyFileSources [MaxSizes] (content : List Char) : Sources where
  calloc := true
  malloc := true
  proxyCache := .empty
  rootCa := ⟨[], false⟩
  evpHubUrl := ⟨[], false⟩
  evpHubPort := ⟨[], false⟩
  iotPlatform := ⟨[], false⟩
  certKey := keyFile content

theorem selectedContent_keyFile [Errno] (content : List Char) :
    selectedContent (keyFile content) .mqttTlsClientKey = some content := by
  have hsuffix : (strstr "dev_key.pem".toList ClientKey.mqttTlsClientKey.suffix).isSome = true := by
    decide +kernel
  have hpath : getCertKeyPath (keyFile content).path .mqttTlsClientKey =
      (0, some (entryPath (keyFile content).path.dirPath "dev_key.pem".toList)) := by
    rw [getCertKeyPath, keyFile]
    dsimp only
    rw [scanDirectory, if_pos hsuffix, if_pos rfl]
  unfold selectedContent
  rw [hpath, if_pos rfl]
  rfl

/-- The sizes of the examples. -/
@[reducible]
def sizes64 : MaxSizes := .uniform 64 (Nat.succ_pos 63)

/-- The last byte of a key file of 4097 bytes is lost. -/
theorem not_readWhole_4097 :
    ¬ @ReadWhole Errno.linux sizes64 .inOrder
      (@keyFileSources sizes64 (List.replicate 4097 'A')) .mqttTlsClientKey := by
  intro h
  have hfits := @ReadWhole.fits Errno.linux sizes64 .inOrder _ _ h _ rfl rfl
    (@selectedContent_keyFile Errno.linux _)
  have hle : 4097 ≤ mqttTlsClientKeyMaxSize := by
    calc 4097
        = (List.replicate 4097 'A').length := List.length_replicate.symm
      _ ≤ mqttTlsClientKeyMaxSize := hfits.1
  exact absurd hle (by decide)

end EdgeDeviceCore.Esf.ReadConfig
