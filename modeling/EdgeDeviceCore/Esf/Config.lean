import EdgeDeviceCore.Esf.EvpTls
import EdgeDeviceCore.Esf.ValueText

/-!
# Loading and unloading a configuration

`config.c` hands a value to the agent with its size and wipes as many bytes when the agent is done.
The size ends at the first zero byte of the value, so what the source put behind a zero byte stays
in memory.
-/

open EdgeDeviceCore.Platform EdgeDeviceCore.Data

namespace EdgeDeviceCore.Esf.ReadConfig

/-! ## The functions of `config.c` -/

/-- The memory that `load_config_impl` points to, and its size. -/
def loadConfigImpl (config : Config) : List Char × ℕ := (config.value, config.size)

/-- Zero exactly the first bytes of a memory. -/
def mbedtlsPlatformZeroize (memory : List Char) (size : ℕ) : List Char :=
  List.replicate size nul ++ memory.drop size

def unloadConfigImpl (vp0 : List Char) (size : ℕ) : List Char := mbedtlsPlatformZeroize vp0 size

section

variable [Errno] [MaxSizes] [KeyNumbers]

def getConfigImpl (getEvpTls : Option EvpTlsValue) (sources : Sources) (key : ℕ) : Outcome :=
  if (key = KeyNumbers.number (.client .mqttTlsClientKey) ∨
      key = KeyNumbers.number (.client .mqttTlsClientCert) ∨
      key = KeyNumbers.number .mqttTlsCaCert) ∧ evpAgentEsfIsTlsEnabled getEvpTls = false then
    ⟨none, none⟩
  else evpAgentEsfReadConfig sources key

theorem getConfig_of_enabled {getEvpTls : Option EvpTlsValue}
    (h : evpAgentEsfIsTlsEnabled getEvpTls = true) (sources : Sources) (key : ℕ) :
    getConfigImpl getEvpTls sources key = evpAgentEsfReadConfig sources key := by
  rw [getConfigImpl, if_neg]
  rintro ⟨-, hdisabled⟩
  rw [h] at hdisabled
  cases hdisabled

theorem readConfig_of_getConfig {getEvpTls : Option EvpTlsValue} {sources : Sources} {key : ℕ}
    {config : Config} (h : (getConfigImpl getEvpTls sources key).config = some config) :
    (evpAgentEsfReadConfig sources key).config = some config := by
  unfold getConfigImpl at h
  split at h
  · cases h
  · exact h

end

/-! ## What stays in memory -/

/-- Behind the first zero byte there are only zero bytes. -/
def NothingBehind (bytes : List Char) : Prop :=
  ∀ character ∈ bytes.drop (strlen bytes + 1), character = nul

instance (bytes : List Char) : Decidable (NothingBehind bytes) :=
  List.decidableBAll (· = nul) (bytes.drop (strlen bytes + 1))

theorem nothingBehind_of_proper {bytes : List Char} (h : CString.Proper bytes) :
    NothingBehind bytes := by
  rw [NothingBehind, strlen_eq_length_iff.mpr h, List.drop_of_length_le (Nat.le_succ _)]
  exact nofun

theorem nothingBehind_padded_iff {text : List Char} {size : ℕ} (h : text.length < size) :
    NothingBehind (padded text size) ↔ NothingBehind text := by
  have hdrop : (padded text size).drop (strlen text + 1) =
      text.drop (strlen text + 1) ++
        (List.replicate (size - text.length) nul).drop (strlen text + 1 - text.length) :=
    List.drop_append
  rw [NothingBehind, strlen_padded h, hdrop]
  constructor
  · intro hbehind character hmem
    exact hbehind character (List.mem_append_left _ hmem)
  · intro hbehind character hmem
    rcases List.mem_append.mp hmem with htext | hpadding
    · exact hbehind character htext
    · exact List.eq_of_mem_replicate (List.mem_of_mem_drop hpadding)

/-- Wiping a value to its first zero byte wipes all of it exactly when nothing stands behind. -/
theorem unload_eq_replicate_iff {config : Config} {maxSize : ℕ} (h : Terminated maxSize config) :
    unloadConfigImpl config.value config.size = List.replicate (maxSize + 1) nul ↔
      NothingBehind config.value := by
  have hsize : config.size = strlen config.value + 1 := by rw [h.size_eq, strlen_eq_idxOf]
  have hwiped : (unloadConfigImpl config.value config.size).length = maxSize + 1 := by
    rw [unloadConfigImpl, mbedtlsPlatformZeroize, List.length_append, List.length_replicate,
      List.length_drop, h.length, Nat.add_sub_cancel' h.size_le]
  rw [List.eq_replicate_iff, NothingBehind, ← hsize]
  constructor
  · intro hall character hmem
    exact hall.2 character (List.mem_append_right _ hmem)
  · intro hbehind
    refine ⟨hwiped, fun character hmem ↦ ?_⟩
    rcases List.mem_append.mp hmem with hzeroed | hrest
    · exact List.eq_of_mem_replicate hzeroed
    · exact hbehind character hrest

section Sources

variable [Errno] [MaxSizes]

/-- The bytes that a source puts into the buffer of its key. -/
def Sources.bytes (sources : Sources) : SizedKey → List Char
  | .client key =>
      ((selectedContent sources.certKey key).getD []).take (SizedKey.client key).maxSize
  | .proxy key => readString ((sources.proxyCache.cached key).getD [])
  | .tlsCaCert | .mqttTlsCaCert | .httpsCaCert => sources.rootCa.bytes
  | .mqttHost => sources.evpHubUrl.bytes
  | .mqttPort => sources.evpHubPort.bytes
  | .iotPlatform => sources.iotPlatform.bytes

/-- A successful read leaves something behind the value exactly when its source does. -/
theorem nothingBehind_filledBuffer_iff {sources : Sources} {key : SizedKey}
    (h : (filledBuffer sources key).1 = true) :
    NothingBehind (filledBuffer sources key).2.cells ↔ NothingBehind (sources.bytes key) := by
  have hgetter {size : ℕ} (result : GetterResult size) :
      NothingBehind (result.run (.filled (size + 1) nul)).2.cells ↔
        NothingBehind result.bytes := by
    rw [cells_getter, nothingBehind_padded_iff (by rw [result.length_bytes]; omega)]
  cases key with
  | client key =>
      by_cases hunread :
          ∀ content, selectedContent sources.certKey key = some content → content = []
      · rw [filledBuffer_client_of_unread hunread] at h
        cases h
      · push Not at hunread
        obtain ⟨content, hselected, hcontent⟩ := hunread
        rw [(filledBuffer_client hselected hcontent).2, nothingBehind_padded_iff, Sources.bytes,
          hselected, Option.getD_some]
        exact Nat.lt_succ_of_le (List.length_take_le _ _)
  | proxy key =>
      cases hcached : sources.proxyCache.cached key with
      | none =>
          rw [filledBuffer_proxy_of_none hcached] at h
          cases h
      | some string =>
          have hpos := SizedKey.maxSize_pos (.proxy key)
          rw [filledBuffer_proxy hcached, cells_strncpy_terminated string hpos,
            nothingBehind_padded_iff (by rw [List.length_take]; omega)]
          apply iff_of_true
          · exact nothingBehind_of_proper ((proper_readString string).take _)
          · rw [Sources.bytes, hcached]
            exact nothingBehind_of_proper (proper_readString string)
  | tlsCaCert => exact hgetter sources.rootCa
  | mqttTlsCaCert => exact hgetter sources.rootCa
  | httpsCaCert => exact hgetter sources.rootCa
  | mqttHost => exact hgetter sources.evpHubUrl
  | mqttPort => exact hgetter sources.evpHubPort
  | iotPlatform => exact hgetter sources.iotPlatform

end Sources

section Unload

variable [Errno] [MaxSizes] [KeyNumbers]

/-- A run in which a key is read with success. -/
structure LoadedRun (key : ℕ) where
  getEvpTls : Option EvpTlsValue
  sources : Sources
  config : Config
  get_eq : (getConfigImpl getEvpTls sources key).config = some config

/-- The buffer of the value after `unload_config_impl` with what `load_config_impl` returned. -/
def LoadedRun.unloaded {key : ℕ} (run : LoadedRun key) : List Char :=
  let (vp, size) := loadConfigImpl run.config
  unloadConfigImpl vp size

/-- Two runs end with the same buffer, which is all zero. -/
def NoTrace {key : ℕ} (left right : LoadedRun key) : Prop :=
  left.unloaded = right.unloaded ∧
    ∃ maxSize, gMaxSizes[key]? = some maxSize ∧
      left.unloaded = List.replicate (maxSize + 1) nul

/-- The source puts nothing behind a zero byte. -/
def LoadedRun.Clean {key : ℕ} (run : LoadedRun key) : Prop :=
  ∀ sized, named key = some sized → NothingBehind (run.sources.bytes sized)

/-- One run ends with an all-zero buffer exactly when its source is clean. -/
theorem LoadedRun.unloaded_iff {key : ℕ} (run : LoadedRun key) :
    ∃ maxSize, gMaxSizes[key]? = some maxSize ∧
      (run.unloaded = List.replicate (maxSize + 1) nul ↔ run.Clean) := by
  have hread := readConfig_of_getConfig run.get_eq
  cases hnamed : named key with
  | none =>
      rw [(readConfig_of_not_named hnamed run.sources).1] at hread
      cases hread
  | some sized =>
      obtain rfl := eq_number_of_named hnamed
      obtain ⟨-, -, hok, hconfig⟩ := readConfig_eq_some_iff.mp hread
      have hterminated : Terminated sized.maxSize run.config := by
        rw [hconfig]
        exact (sound_filledBuffer run.sources sized).terminated
      refine ⟨sized.maxSize, gMaxSizes_number sized, ?_⟩
      calc run.unloaded = List.replicate (sized.maxSize + 1) nul
          ↔ NothingBehind run.config.value := unload_eq_replicate_iff hterminated
        _ ↔ NothingBehind (run.sources.bytes sized) := by
            rw [hconfig]
            exact nothingBehind_filledBuffer_iff hok
        _ ↔ run.Clean := by
            constructor
            · intro hbehind other hother
              obtain rfl := Option.some.inj (hnamed.symm.trans hother)
              exact hbehind
            · exact fun hclean ↦ hclean sized hnamed

/-- Unloading leaves no trace exactly when both sources put nothing behind a zero byte. -/
theorem noTrace_iff {key : ℕ} (left right : LoadedRun key) :
    NoTrace left right ↔ left.Clean ∧ right.Clean := by
  obtain ⟨maxSize, hsize, hleft⟩ := left.unloaded_iff
  obtain ⟨other, hother, hright⟩ := right.unloaded_iff
  obtain rfl := Option.some.inj (hsize.symm.trans hother)
  rw [← hleft, ← hright]
  constructor
  · rintro ⟨hsame, size, hnamed, hzero⟩
    obtain rfl := Option.some.inj (hsize.symm.trans hnamed)
    exact ⟨hzero, hsame ▸ hzero⟩
  · rintro ⟨hzero, hzero'⟩
    exact ⟨hzero.trans hzero'.symm, maxSize, hsize, hzero⟩

end Unload

/-- A key file whose bytes are a character, zero and another character. -/
def splitKey (behind : Char) : List Char := ['A', nul, behind]

section SplitKey

variable [Errno] [MaxSizes]

theorem filledBuffer_splitKey (behind : Char) :
    (filledBuffer (keyFileSources (splitKey behind)) (.client .mqttTlsClientKey)).1 = true := by
  have hselected : selectedContent (keyFileSources (splitKey behind)).certKey .mqttTlsClientKey =
      some (splitKey behind) := selectedContent_keyFile (splitKey behind)
  exact (filledBuffer_client hselected (List.cons_ne_nil _ _)).1

theorem bytes_splitKey (behind : Char) :
    (keyFileSources (splitKey behind)).bytes (.client .mqttTlsClientKey) = splitKey behind := by
  have hlength : (splitKey behind).length ≤ mqttTlsClientKeyMaxSize := by
    calc (splitKey behind).length
        = 3 := rfl
      _ ≤ mqttTlsClientKeyMaxSize := by decide
  unfold Sources.bytes keyFileSources
  dsimp only
  rw [selectedContent_keyFile, Option.getD_some]
  exact List.take_of_length_le hlength

theorem getConfig_splitKey [KeyNumbers] (behind : Char) :
    (getConfigImpl none (keyFileSources (splitKey behind))
      (KeyNumbers.number (.client .mqttTlsClientKey))).config.isSome = true := by
  rw [getConfig_of_enabled rfl, Option.isSome_iff_exists]
  exact ⟨_, readConfig_eq_some_iff.mpr ⟨rfl, rfl, filledBuffer_splitKey behind, rfl⟩⟩

/-- The run that loads and unloads such a key file. -/
def splitKeyRun [KeyNumbers] (behind : Char) :
    LoadedRun (KeyNumbers.number (.client .mqttTlsClientKey)) where
  getEvpTls := none
  sources := keyFileSources (splitKey behind)
  config := Option.get _ (getConfig_splitKey behind)
  get_eq := (Option.some_get _).symm

theorem not_clean_splitKeyRun [KeyNumbers] : ¬ (splitKeyRun 'B').Clean := by
  intro h
  have hbehind := h (.client .mqttTlsClientKey) (named_number _)
  rw [splitKeyRun, bytes_splitKey] at hbehind
  exact absurd hbehind (by decide)

end SplitKey

/-- What stands behind the zero byte of a key file survives. -/
theorem not_noTrace_splitKey :
    ¬ @NoTrace Errno.linux sizes64 .inOrder _ (@splitKeyRun Errno.linux sizes64 .inOrder 'B')
      (@splitKeyRun Errno.linux sizes64 .inOrder 'C') := by
  rintro ⟨-, size, hsize, hzero⟩
  obtain ⟨maxSize, hmaxSize, hiff⟩ := @LoadedRun.unloaded_iff Errno.linux sizes64 .inOrder _
    (@splitKeyRun Errno.linux sizes64 .inOrder 'B')
  obtain rfl := Option.some.inj (hmaxSize.symm.trans hsize)
  exact @not_clean_splitKeyRun Errno.linux sizes64 .inOrder (hiff.mp hzero)

end EdgeDeviceCore.Esf.ReadConfig
