import EdgeDeviceCore.Data.Buffer
import EdgeDeviceCore.Esf.CertKeyPath
import EdgeDeviceCore.Esf.ProxyCache

/-!
# Reading a configuration value

`evp_agent_esf_read_config` fills one buffer from the proxy cache, from a getter of the platform or
from a file, and returns it with the length of the string in it. The buffer has one byte more than
the size in `g_max_sizes`. Every source leaves a terminator in that last byte, so the length is
always found inside the buffer.
-/

open EdgeDeviceCore.Platform EdgeDeviceCore.Data

namespace EdgeDeviceCore.Esf.ReadConfig

/-! ## Keys and sizes -/

/-- The size constants of the network manager and the system manager. -/
inductive SizeName where
  | proxyUrlLen | proxyPortLen | proxyUserNameLen | proxyPasswordLen
  | rootCaMaxSize | evpHubUrlMaxSize | evpHubPortMaxSize | iotPlatformMaxSize
deriving DecidableEq, Repr

class MaxSizes where
  value : SizeName → ℕ
  value_pos : ∀ name, 0 < value name

/-- The keys of `enum config_key` that `g_max_sizes` has an entry for. -/
inductive SizedKey where
  | tlsCaCert | mqttHost | mqttPort | mqttTlsCaCert
  | client (key : ClientKey)
  | httpsCaCert
  | proxy (key : ProxyKey)
  | iotPlatform
deriving DecidableEq, Repr

/-- The numbers of the keys in `enum config_key`. -/
class KeyNumbers where
  number : SizedKey → ℕ
  number_injective : Function.Injective number

def mqttTlsClientCertMaxSize : ℕ := 32768

def mqttTlsClientKeyMaxSize : ℕ := 4096

/-- One size under every name. -/
@[reducible]
def MaxSizes.uniform (size : ℕ) (h : 0 < size) : MaxSizes := ⟨fun _ ↦ size, fun _ ↦ h⟩

/-- The designators of `g_max_sizes`. -/
def sizedKeys : List SizedKey :=
  [.tlsCaCert, .mqttHost, .mqttPort, .mqttTlsCaCert, .client .mqttTlsClientCert,
    .client .mqttTlsClientKey, .httpsCaCert, .proxy .mqttProxyHost, .proxy .mqttProxyPort,
    .proxy .mqttProxyUsername, .proxy .mqttProxyPassword, .proxy .httpProxyHost,
    .proxy .httpProxyPort, .proxy .httpProxyUsername, .proxy .httpProxyPassword, .iotPlatform]

theorem mem_sizedKeys (key : SizedKey) : key ∈ sizedKeys := by
  cases key with
  | client key => cases key <;> decide
  | proxy key => cases key <;> decide
  | _ => decide

/-- The keys numbered in the order of the table. -/
@[reducible]
def KeyNumbers.inOrder : KeyNumbers where
  number key := sizedKeys.idxOf key
  number_injective left _ h := (List.idxOf_inj (mem_sizedKeys left)).mp h

section Sizes

variable [MaxSizes]

/-- The initialisers of `g_max_sizes`. -/
def SizedKey.maxSize : SizedKey → ℕ
  | .tlsCaCert | .mqttTlsCaCert | .httpsCaCert => MaxSizes.value .rootCaMaxSize
  | .mqttHost => MaxSizes.value .evpHubUrlMaxSize
  | .mqttPort => MaxSizes.value .evpHubPortMaxSize
  | .client .mqttTlsClientCert => mqttTlsClientCertMaxSize
  | .client .mqttTlsClientKey => mqttTlsClientKeyMaxSize
  | .proxy .mqttProxyHost | .proxy .httpProxyHost => MaxSizes.value .proxyUrlLen
  | .proxy .mqttProxyPort | .proxy .httpProxyPort => MaxSizes.value .proxyPortLen
  | .proxy .mqttProxyUsername | .proxy .httpProxyUsername => MaxSizes.value .proxyUserNameLen
  | .proxy .mqttProxyPassword | .proxy .httpProxyPassword => MaxSizes.value .proxyPasswordLen
  | .iotPlatform => MaxSizes.value .iotPlatformMaxSize

theorem SizedKey.maxSize_pos (key : SizedKey) : 0 < key.maxSize := by
  cases key with
  | client key => cases key <;> exact Nat.succ_pos _
  | proxy key => cases key <;> exact MaxSizes.value_pos _
  | _ => exact MaxSizes.value_pos _

variable [KeyNumbers]

/-- The key with a number, if it has an entry. -/
def named (key : ℕ) : Option SizedKey := sizedKeys.find? fun sized ↦ KeyNumbers.number sized = key

/-- `__arraycount(g_max_sizes)`. -/
def arrayCount : ℕ := sizedKeys.foldr (fun sized count ↦ max (KeyNumbers.number sized + 1) count) 0

/-- `g_max_sizes`, with zero where it has no entry. -/
def gMaxSizes : List ℕ :=
  (List.range arrayCount).map fun key ↦ ((named key).map SizedKey.maxSize).getD 0

omit [MaxSizes] in
@[simp]
theorem named_number (sized : SizedKey) : named (KeyNumbers.number sized) = some sized := by
  unfold named
  cases hfind : sizedKeys.find? fun other ↦ KeyNumbers.number other = KeyNumbers.number sized with
  | none =>
      have hnone := List.find?_eq_none.mp hfind sized (mem_sizedKeys sized)
      exact absurd (decide_eq_true rfl) hnone
  | some other =>
      have hnumber : KeyNumbers.number other = KeyNumbers.number sized :=
        of_decide_eq_true (List.find?_some hfind :)
      rw [KeyNumbers.number_injective hnumber]

omit [MaxSizes] in
theorem eq_number_of_named {key : ℕ} {sized : SizedKey} (h : named key = some sized) :
    key = KeyNumbers.number sized :=
  (of_decide_eq_true (List.find?_some h :)).symm

omit [MaxSizes] in
theorem number_lt_arrayCount (sized : SizedKey) : KeyNumbers.number sized < arrayCount := by
  have hmem := mem_sizedKeys sized
  unfold arrayCount
  generalize sizedKeys = keys at hmem ⊢
  induction keys with
  | nil => cases hmem
  | cons first rest ih =>
      rw [List.foldr_cons, lt_max_iff]
      rcases List.mem_cons.mp hmem with rfl | hrest
      · exact .inl (Nat.lt_succ_self _)
      · exact .inr (ih hrest)

theorem length_gMaxSizes : gMaxSizes.length = arrayCount := by
  rw [gMaxSizes, List.length_map, List.length_range]

theorem gMaxSizes_getElem? (key : ℕ) :
    gMaxSizes[key]? =
      if key < arrayCount then some (((named key).map SizedKey.maxSize).getD 0) else none := by
  rw [gMaxSizes, List.getElem?_map]
  split
  · next h => rw [List.getElem?_range h, Option.map_some]
  · next h =>
      rw [List.getElem?_eq_none (by rw [List.length_range]; omega), Option.map_none]

theorem gMaxSizes_number (sized : SizedKey) :
    gMaxSizes[KeyNumbers.number sized]? = some sized.maxSize := by
  rw [gMaxSizes_getElem?, if_pos (number_lt_arrayCount sized), named_number, Option.map_some,
    Option.getD_some]

end Sizes

/-! ## The functions of `esf.c` -/

/-- The terminator. -/
abbrev nul : Char := Char.ofNat 0

/-- What a getter does to the buffer that it is given with a size, and whether it succeeds. -/
structure GetterResult (size : ℕ) where
  stores : List (Fin size × Char)
  ok : Bool
deriving DecidableEq, Repr

/-- What `open` and `read` find at a path. -/
inductive FileAnswer where
  | unopenable
  | unreadable
  | content (content : List Char)
deriving DecidableEq, Repr

/-- What one call of `read_cert_key` is answered. -/
structure CertKeyAnswers where
  path : PathAnswers
  file : CString → FileAnswer

/-- What one call of `evp_agent_esf_read_config` reads and is answered. -/
structure Sources [MaxSizes] where
  calloc : Bool
  malloc : Bool
  proxyCache : ProxyCache
  rootCa : GetterResult (MaxSizes.value .rootCaMaxSize)
  evpHubUrl : GetterResult (MaxSizes.value .evpHubUrlMaxSize)
  evpHubPort : GetterResult (MaxSizes.value .evpHubPortMaxSize)
  iotPlatform : GetterResult (MaxSizes.value .iotPlatformMaxSize)
  certKey : CertKeyAnswers

/-- `struct config`. -/
structure Config where
  key : ℕ
  value : List Char
  size : ℕ
deriving DecidableEq, Repr

/-- The memory that `calloc` gave, and what the call returns. -/
structure Outcome where
  buffer : Option (Buffer Char)
  config : Option Config
deriving DecidableEq, Repr

/-- `strncpy`. -/
def strncpy (buffer : Buffer Char) (source : CString) (n : ℕ) : Buffer Char :=
  buffer.copy 0 (((readString source).take n).rightpad n nul)

def GetterResult.run {size : ℕ} (result : GetterResult size) (buffer : Buffer Char) :
    Bool × Buffer Char :=
  (result.ok, buffer.storeAll (result.stores.map fun store ↦ (store.1.val, store.2)))

section Functions

variable [Errno]

def readCertKey (answers : CertKeyAnswers) (key : ClientKey) (buffer : Buffer Char)
    (bufSize : ℕ) : ℤ × Buffer Char :=
  let (ret, certKeyPath) := getCertKeyPath answers.path key
  if ret ≠ 0 then (ret, buffer)
  else
    match certKeyPath.map answers.file with
    | some (.content content) =>
        let bytes := content.take (bufSize - 1)
        let buffer := buffer.copy 0 bytes
        if bytes.length = 0 then (-Errno.value ErrnoName.EIO, buffer)
        else (0, buffer.store (bufSize - 1) nul)
    | _ => (-Errno.value ErrnoName.EIO, buffer)

variable [MaxSizes]

/-- The switch over the key: whether it succeeds, and the buffer after it. -/
def fillBuffer (sources : Sources) (key : Option SizedKey) (maxSize : ℕ) (buffer : Buffer Char) :
    Bool × Buffer Char :=
  match key with
  | some (.proxy key) =>
      match sources.proxyCache.cached key with
      | some string => (true, (strncpy buffer string maxSize).store (maxSize - 1) nul)
      | none => (false, buffer)
  | some .tlsCaCert | some .mqttTlsCaCert | some .httpsCaCert => sources.rootCa.run buffer
  | some .mqttHost => sources.evpHubUrl.run buffer
  | some .mqttPort => sources.evpHubPort.run buffer
  | some .iotPlatform => sources.iotPlatform.run buffer
  | some (.client key) =>
      let (ret, buffer) := readCertKey sources.certKey key buffer (maxSize + 1)
      (ret = 0, buffer)
  | none => (false, buffer)

def evpAgentEsfReadConfig [KeyNumbers] (sources : Sources) (key : ℕ) : Outcome :=
  match gMaxSizes[key]? with
  | none => ⟨none, none⟩
  | some maxSize =>
      if sources.calloc then
        let (isSuccess, buffer) :=
          fillBuffer sources (named key) maxSize (.filled (maxSize + 1) nul)
        if isSuccess && sources.malloc then
          ⟨some buffer, some ⟨key, buffer.cells, strlen buffer.cells + 1⟩⟩
        else ⟨some buffer, none⟩
      else ⟨none, none⟩

theorem fillBuffer_client (sources : Sources) (key : ClientKey) (maxSize : ℕ)
    (buffer : Buffer Char) :
    fillBuffer sources (some (.client key)) maxSize buffer =
      (decide ((readCertKey sources.certKey key buffer (maxSize + 1)).1 = 0),
        (readCertKey sources.certKey key buffer (maxSize + 1)).2) := rfl

end Functions

/-! ## Writes stay inside the buffer -/

/-- A buffer of `maxSize + 1` bytes that was never written out of bounds and still has its last
byte as a terminator. -/
structure Sound (maxSize : ℕ) (buffer : Buffer Char) : Prop where
  length : buffer.cells.length = maxSize + 1
  inBounds : buffer.InBounds
  last : buffer.cells[maxSize]? = some nul

section Sound

variable {maxSize : ℕ} {buffer : Buffer Char}

theorem sound_filled (maxSize : ℕ) : Sound maxSize (.filled (maxSize + 1) nul) where
  length := Buffer.length_filled _ _
  inBounds := Buffer.inBounds_filled _ _
  last := List.getElem?_replicate_of_lt (Nat.lt_succ_self maxSize)

theorem Sound.store (h : Sound maxSize buffer) {index : ℕ} (hindex : index < maxSize)
    (character : Char) : Sound maxSize (buffer.store index character) where
  length := (Buffer.length_store index character).trans h.length
  inBounds := h.inBounds.store (by rw [h.length]; omega) character
  last := by rw [Buffer.cells_store, List.getElem?_set_ne hindex.ne, h.last]

theorem Sound.storeAll (h : Sound maxSize buffer) {stores : List (ℕ × Char)}
    (hstores : ∀ store ∈ stores, store.1 < maxSize) : Sound maxSize (buffer.storeAll stores) where
  length := (Buffer.length_storeAll stores).trans h.length
  inBounds := by
    apply h.inBounds.storeAll
    intro store hstore
    rw [h.length]
    exact (hstores store hstore).trans (Nat.lt_succ_self maxSize)
  last := by
    rw [Buffer.cells_storeAll_getElem? fun store hstore ↦ (hstores store hstore).ne, h.last]

theorem Sound.copy (h : Sound maxSize buffer) {source : List Char}
    (hroom : source.length ≤ maxSize) : Sound maxSize (buffer.copy 0 source) where
  length := (Buffer.length_copy 0 source).trans h.length
  inBounds := h.inBounds.copy (by rw [h.length]; omega)
  last := by rw [Buffer.cells_copy_zero_getElem? (by rw [h.length]; omega) hroom, h.last]

/-- The store of the terminator behind the longest content. -/
theorem Sound.terminate (h : Sound maxSize buffer) : Sound maxSize (buffer.store maxSize nul) where
  length := (Buffer.length_store maxSize nul).trans h.length
  inBounds := h.inBounds.store (by rw [h.length]; omega) nul
  last := by
    rw [Buffer.cells_store]
    exact List.getElem?_set_self (by rw [h.length]; omega)

theorem Sound.strncpy (h : Sound maxSize buffer) (source : CString) :
    Sound maxSize (strncpy buffer source maxSize) := by
  apply h.copy
  rw [List.length_rightpad, List.length_take]
  omega

theorem Sound.getter (h : Sound maxSize buffer) (result : GetterResult maxSize) :
    Sound maxSize (result.run buffer).2 := by
  apply h.storeAll
  intro store hstore
  obtain ⟨write, -, rfl⟩ := List.mem_map.mp hstore
  exact write.1.isLt

theorem Sound.readCertKey [Errno] (h : Sound maxSize buffer) (answers : CertKeyAnswers)
    (key : ClientKey) : Sound maxSize (readCertKey answers key buffer (maxSize + 1)).2 := by
  unfold ReadConfig.readCertKey
  dsimp only
  split
  · exact h
  · split
    · next content _ =>
        have hcopied : Sound maxSize (buffer.copy 0 (content.take maxSize)) :=
          h.copy (List.length_take_le _ _)
        split
        · exact hcopied
        · exact hcopied.terminate
    · exact h

theorem Sound.fillBuffer [Errno] [MaxSizes] (sources : Sources) (key : SizedKey)
    (h : Sound key.maxSize buffer) :
    Sound key.maxSize (fillBuffer sources (some key) key.maxSize buffer).2 := by
  cases key with
  | proxy key =>
      unfold ReadConfig.fillBuffer
      dsimp only
      split
      · have hpos := SizedKey.maxSize_pos (.proxy key)
        exact (h.strncpy _).store (by omega) nul
      · exact h
  | client key =>
      rw [fillBuffer_client]
      exact h.readCertKey sources.certKey key
  | tlsCaCert => exact h.getter sources.rootCa
  | mqttTlsCaCert => exact h.getter sources.rootCa
  | httpsCaCert => exact h.getter sources.rootCa
  | mqttHost => exact h.getter sources.evpHubUrl
  | mqttPort => exact h.getter sources.evpHubPort
  | iotPlatform => exact h.getter sources.iotPlatform

end Sound

/-! ## Every value is in bounds and terminated -/

/-- The value has a terminator in its buffer, and the size ends with the first one. -/
structure Terminated (maxSize : ℕ) (config : Config) : Prop where
  length : config.value.length = maxSize + 1
  nul_mem : nul ∈ config.value
  size_eq : config.size = config.value.idxOf nul + 1
  size_le : config.size ≤ maxSize + 1

theorem Sound.terminated {maxSize key : ℕ} {buffer : Buffer Char} (h : Sound maxSize buffer) :
    Terminated maxSize ⟨key, buffer.cells, strlen buffer.cells + 1⟩ := by
  have hmem : nul ∈ buffer.cells := List.mem_of_getElem? h.last
  have hlt := List.idxOf_lt_length_of_mem hmem
  rw [h.length] at hlt
  exact ⟨h.length, hmem, by rw [strlen_eq_idxOf], by rw [strlen_eq_idxOf]; exact hlt⟩

section WellFormed

variable [Errno] [MaxSizes] [KeyNumbers]

/-- The buffer that a key is read into. -/
def filledBuffer (sources : Sources) (key : SizedKey) : Bool × Buffer Char :=
  fillBuffer sources (some key) key.maxSize (.filled (key.maxSize + 1) nul)

theorem readConfig_number (sources : Sources) (key : SizedKey) :
    evpAgentEsfReadConfig sources (KeyNumbers.number key) =
      if sources.calloc then
        if (filledBuffer sources key).1 && sources.malloc then
          ⟨some (filledBuffer sources key).2,
            some ⟨KeyNumbers.number key, (filledBuffer sources key).2.cells,
              strlen (filledBuffer sources key).2.cells + 1⟩⟩
        else ⟨some (filledBuffer sources key).2, none⟩
      else ⟨none, none⟩ := by
  unfold evpAgentEsfReadConfig filledBuffer
  rw [gMaxSizes_number]
  dsimp only
  rw [named_number]

/-- A key without an entry comes to the default case or past the end of the table. -/
theorem readConfig_of_not_named {key : ℕ} (h : named key = none) (sources : Sources) :
    (evpAgentEsfReadConfig sources key).config = none ∧
      ∀ buffer, (evpAgentEsfReadConfig sources key).buffer = some buffer →
        gMaxSizes[key]? = some 0 ∧ buffer = .filled 1 nul := by
  unfold evpAgentEsfReadConfig
  rw [gMaxSizes_getElem?, h]
  by_cases hcount : key < arrayCount
  · rw [if_pos hcount]
    cases hcalloc : sources.calloc with
    | false => exact ⟨rfl, nofun⟩
    | true => exact ⟨rfl, fun buffer hread ↦ ⟨rfl, (Option.some.inj hread).symm⟩⟩
  · rw [if_neg hcount]
    exact ⟨rfl, nofun⟩

omit [KeyNumbers] in
theorem sound_filledBuffer (sources : Sources) (key : SizedKey) :
    Sound key.maxSize (filledBuffer sources key).2 :=
  (sound_filled key.maxSize).fillBuffer sources key

/-- Every write is inside the buffer of the key, a value ends with a terminator in it, and a key
without a size has no value. -/
theorem readConfig_inBounds (sources : Sources) (key : ℕ) :
    (∀ buffer, (evpAgentEsfReadConfig sources key).buffer = some buffer →
      ∃ maxSize, gMaxSizes[key]? = some maxSize ∧ buffer.cells.length = maxSize + 1 ∧
        ∀ index ∈ buffer.written, index < maxSize + 1) ∧
    (∀ config, (evpAgentEsfReadConfig sources key).config = some config →
      ∃ maxSize, gMaxSizes[key]? = some maxSize ∧ Terminated maxSize config ∧
        ∃ buffer, (evpAgentEsfReadConfig sources key).buffer = some buffer ∧
          config.value = buffer.cells) ∧
    ((∀ sized : SizedKey, KeyNumbers.number sized ≠ key) ∨ gMaxSizes.length ≤ key →
      (evpAgentEsfReadConfig sources key).config = none) := by
  cases hnamed : named key with
  | none =>
      obtain ⟨hnone, hbuffer⟩ := readConfig_of_not_named hnamed sources
      refine ⟨fun buffer hread ↦ ?_, fun config hread ↦ ?_, fun _ ↦ hnone⟩
      · obtain ⟨hsize, rfl⟩ := hbuffer buffer hread
        exact ⟨0, hsize, rfl, nofun⟩
      · rw [hnone] at hread
        cases hread
  | some sized =>
      obtain rfl := eq_number_of_named hnamed
      have hsound := sound_filledBuffer sources sized
      have hbounds : ∀ index ∈ (filledBuffer sources sized).2.written, index < sized.maxSize + 1 :=
        hsound.length ▸ hsound.inBounds
      rw [readConfig_number, gMaxSizes_number]
      refine ⟨fun buffer hread ↦ ?_, fun config hread ↦ ?_, fun hkey ↦ ?_⟩
      · refine ⟨_, rfl, ?_⟩
        split_ifs at hread
        · obtain rfl := Option.some.inj hread
          exact ⟨hsound.length, hbounds⟩
        · obtain rfl := Option.some.inj hread
          exact ⟨hsound.length, hbounds⟩
      · refine ⟨_, rfl, ?_⟩
        split_ifs at hread with hcalloc hsuccess
        obtain rfl := Option.some.inj hread
        rw [if_pos hcalloc, if_pos hsuccess]
        exact ⟨hsound.terminated, _, rfl, rfl⟩
      · rcases hkey with hnone | hpast
        · exact absurd rfl (hnone sized)
        · rw [length_gMaxSizes] at hpast
          exact absurd (number_lt_arrayCount sized) (Nat.not_lt.mpr hpast)

end WellFormed

end EdgeDeviceCore.Esf.ReadConfig
