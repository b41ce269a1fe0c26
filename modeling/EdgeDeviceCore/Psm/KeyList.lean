import EdgeDeviceCore.Platform.PythonInt

/-!
# Keys of the parameter database

`check_key` of `update_psm_db.py` takes the name of a key, its name without `PlStorageData`, or
whatever `int` reads. It does not compare the integer with the number of keys, so that any integer
is a key.
-/

open EdgeDeviceCore.Platform

namespace EdgeDeviceCore.Psm

/-- `key_list`. -/
def keyNames : List String :=
  ["PlStorageDataDpsURL", "PlStorageDataCommonName", "PlStorageDataDpsScopeID",
    "PlStorageDataProjectID", "PlStorageDataRegisterToken", "PlStorageDataWiFiSSID",
    "PlStorageDataWiFiPassword", "PlStorageDataWiFiEncryption", "PlStorageDataIPAddress",
    "PlStorageDataSubnetMask", "PlStorageDataGateway", "PlStorageDataDNS",
    "PlStorageDataIPMethod", "PlStorageDataNetIfKind", "PlStorageDataIPv6IPAddress",
    "PlStorageDataIPv6SubnetMask", "PlStorageDataIPv6Gateway", "PlStorageDataIPv6DNS",
    "PlStorageDataWiFiApSSID", "PlStorageDataWiFiApPassword", "PlStorageDataWiFiApEncryption",
    "PlStorageDataWiFiApChannel", "PlStorageDataWiFiApIPAddress",
    "PlStorageDataWiFiApSubnetMask", "PlStorageDataWiFiApGateway", "PlStorageDataWiFiApDNS",
    "PlStorageDataProxyURL", "PlStorageDataProxyPort", "PlStorageDataProxyUserName",
    "PlStorageDataProxyPassword", "PlStorageDataEvpHubURL", "PlStorageDataEvpHubPort",
    "PlStorageDataEvpIotPlatform", "PlStorageDataPkiRootCerts", "PlStorageDataPkiRootCertsHash",
    "PlStorageDataEvpTls", "PlStorageDataDeviceManifest", "PlStorageDataDebugLogLevel",
    "PlStorageDataEventLogLevel", "PlStorageDataDebugLogDestination", "PlStorageDataLogFilter",
    "PlStorageDataLogUseFlash", "PlStorageDataStorageName",
    "PlStorageDataStorageSubDirectoryPath", "PlStorageDataDebugLogLevel2",
    "PlStorageDataEventLogLevel2", "PlStorageDataDebugLogDestination2",
    "PlStorageDataLogFilter2", "PlStorageDataLogUseFlash2", "PlStorageDataStorageName2",
    "PlStorageDataStorageSubDirectoryPath2", "PlStorageDataDebugLogLevel3",
    "PlStorageDataEventLogLevel3", "PlStorageDataDebugLogDestination3",
    "PlStorageDataLogFilter3", "PlStorageDataLogUseFlash3", "PlStorageDataStorageName3",
    "PlStorageDataStorageSubDirectoryPath3", "PlStorageDataDebugLogLevel4",
    "PlStorageDataEventLogLevel4", "PlStorageDataDebugLogDestination4",
    "PlStorageDataLogFilter4", "PlStorageDataLogUseFlash4", "PlStorageDataStorageName4",
    "PlStorageDataStorageSubDirectoryPath4", "PlStorageDataNTPServer",
    "PlStorageDataNTPSyncInterval", "PlStorageDataNTPPollingTime",
    "PlStorageDataSkipModeSettings", "PlStorageDataLimitPacketTime",
    "PlStorageDataLimitRTCCorrectionValue", "PlStorageDataSanityLimit",
    "PlStorageDataSlewModeSettings", "PlStorageDataStableRTCCorrectionValue",
    "PlStorageDataStableSyncNumber", "PlStorageDataSystemError", "PlStorageDataFactoryResetFlag",
    "PlStorageDataRTCErrorDetection", "PlStorageDataRTCPQAParameter",
    "PlStorageDataBatteryInformation", "PlStorageDataRTCNetworkInformation",
    "PlStorageDataRTCConfig", "PlStorageDataHoursMeter", "PlStorageDataSAS",
    "PlStorageDataQRModeStateFlag", "PlStorageDataInitialSettingFlag", "PlStorageDataHWInfoText",
    "PlStorageDataMCULoaderVersion", "PlStorageDataSensorLoaderVersion",
    "PlStorageDataMCUFWLastUpdate", "PlStorageDataSensorLoaderLastUpdate",
    "PlStorageDataSensorFWLastUpdate", "PlStorageDataSensorAIModelFlashAddress",
    "PlStorageDataSensorLoaderFlashAddress", "PlStorageDataSensorFWFlashAddress",
    "PlStorageDataAIModelParameterSlot0", "PlStorageDataAIModelParameterSlot1",
    "PlStorageDataAIModelParameterSlot2", "PlStorageDataAIModelParameterSlot3",
    "PlStorageDataAIModelParameterSlot4", "PlStorageDataAIModelParameterHashSlot1",
    "PlStorageDataAIModelParameterHashSlot2", "PlStorageDataAIModelParameterHashSlot3",
    "PlStorageDataAIModelParameterHashSlot4", "PlStorageDataLMTStd", "PlStorageDataPreWBStd",
    "PlStorageDataGAMMAStd", "PlStorageDataLSCStd", "PlStorageDataLSCRawStd",
    "PlStorageDataDEWARPStd", "PlStorageDataLMTCustom", "PlStorageDataPreWBCustom",
    "PlStorageDataGAMMACustom", "PlStorageDataGAMMAAutoCustom", "PlStorageDataLSCCustom",
    "PlStorageDataLSCRawCustom", "PlStorageDataDEWARPCustom",
    "PlStorageDataAIISPAIModelParameterSlot0", "PlStorageDataAIISPLoaderFlashAddress",
    "PlStorageDataAIISPFWFlashAddress", "PlStorageDataAIISPAIModelParameterSlot1",
    "PlStorageDataAIISPAIModelParameterSlot2", "PlStorageDataAIISPAIModelParameterSlot3",
    "PlStorageDataAIISPAIModelParameterSlot4", "PlStorageDataAIModelSlotInfo",
    "PlStorageDataAIISPAIModelSlotInfo", "PlStorageDataFwMgrBinaryInfo0",
    "PlStorageDataFwMgrBinaryInfo1", "PlStorageDataFwMgrBinaryInfo2",
    "PlStorageDataFwMgrBinaryInfo3", "PlStorageDataFwMgrBinaryInfo4",
    "PlStorageDataFwMgrBinaryInfo5", "PlStorageDataFwMgrBinaryInfo6",
    "PlStorageDataFwMgrBinaryInfo7", "PlStorageDataFwMgrBinaryInfo8",
    "PlStorageDataFwMgrBinaryInfo9", "PlStorageDataFwMgrBinaryInfo10",
    "PlStorageDataFwMgrBinaryInfo11", "PlStorageDataFwMgrBinaryInfo12",
    "PlStorageDataFwMgrBinaryInfo13", "PlStorageDataFwMgrBinaryInfo14",
    "PlStorageDataFwMgrBinaryInfo15", "PlStorageDataFwMgrBinaryInfo16",
    "PlStorageDataFwMgrBinaryInfo17", "PlStorageDataFwMgrBinaryInfo18",
    "PlStorageDataFwMgrBinaryInfo19", "PlStorageDataFwMgrBinaryInfo20",
    "PlStorageDataFwMgrBinaryInfo21", "PlStorageDataFwMgrBinaryInfo22",
    "PlStorageDataFwMgrBinaryInfo23", "PlStorageDataFwMgrBinaryInfo24",
    "PlStorageDataFwMgrBinaryInfo25", "PlStorageDataFwMgrBinaryInfo26",
    "PlStorageDataFwMgrBinaryInfo27", "PlStorageDataFwMgrBinaryInfo28",
    "PlStorageDataFwMgrBinaryInfo29", "PlStorageDataFwMgrBinaryInfoMcuFirmware",
    "PlStorageDataEsfSensorConfig", "PlStorageDataSpiBootLoader", "PlStorageDataSpiBootFirmware",
    "PlStorageDataSpiBootAIModel", "PlStorageDataPreInstallAIModelInfo",
    "PlStorageDataPreInstallAIModel", "PlStorageDataInputTensorOnlyModel",
    "PlStorageDataInputTensorOnlyParam", "PlStorageDataExceptionFactor",
    "PlStorageDataExceptionInfo", "PlStorageDataEvpExceptionFactor",
    "PlStorageDataMigrationDone"]

def keyList : List (List Char) := keyNames.map String.toList

theorem length_keyList : keyList.length = 169 := by
  rw [keyList, List.length_map]
  decide +kernel

/-- What a short name leaves out. -/
def keyPrefix : List Char := "PlStorageData".toList

/-- The loop of `check_key` over the names from a position on. -/
def findKey (key : List Char) : ℕ → List (List Char) → Option ℕ
  | _, [] => none
  | i, name :: names =>
      if name = key then some i
      else if keyPrefix ++ key = name then some i
      else findKey key (i + 1) names

def checkKey [PythonRelease] (key : List Char) : Option ℤ :=
  match findKey key 0 keyList with
  | some i => some i
  | none => pythonInt key

/-! ## Names of keys -/

/-- The full or the short name of the key at an index. -/
def NamesKey (key : List Char) (i : ℕ) : Prop :=
  keyList[i]? = some key ∨ keyList[i]? = some (keyPrefix ++ key)

theorem keyPrefix_eq : keyPrefix =
    ['P', 'l', 'S', 't', 'o', 'r', 'a', 'g', 'e', 'D', 'a', 't', 'a'] :=
  String.toList_ofList

/-- The name goes on behind the prefix, and with a letter. -/
def goesOnWithLetter (front name : List Char) : Bool :=
  front.isPrefixOf name && (name.drop front.length).head?.any Char.isAlpha

/-- One name of the list, by its characters. -/
theorem goesOnWithLetter_cons {front characters : List Char} {names : List String}
    (hname : goesOnWithLetter front characters = true)
    (hnames : ∀ name ∈ names, goesOnWithLetter front name.toList = true) :
    ∀ name ∈ String.ofList characters :: names, goesOnWithLetter front name.toList = true := by
  intro name hmem
  rcases List.mem_cons.mp hmem with rfl | hmem
  · rwa [String.toList_ofList]
  · exact hnames name hmem

theorem goesOnWithLetter_keyList :
    ∀ name ∈ keyList, goesOnWithLetter keyPrefix name = true := by
  have hnames : ∀ name ∈ keyNames, goesOnWithLetter keyPrefix name.toList = true := by
    rw [keyPrefix_eq]
    unfold keyNames
    -- The characters of a literal are its own; computing them is what takes long.
    repeat (apply goesOnWithLetter_cons; · decide)
    exact nofun
  intro name hmem
  obtain ⟨text, htext, rfl⟩ := List.mem_map.mp hmem
  exact hnames text htext

/-- A name starts with a letter, with the prefix or without it. -/
theorem NamesKey.exists_cons {key : List Char} {i : ℕ} (h : NamesKey key i) :
    ∃ letter rest, key = letter :: rest ∧ letter.isAlpha = true := by
  rcases h with hfull | hshort
  · have hletter := goesOnWithLetter_keyList _ (List.mem_of_getElem? hfull)
    rw [goesOnWithLetter, Bool.and_eq_true, keyPrefix_eq, List.isPrefixOf_iff_prefix] at hletter
    obtain ⟨rest, rfl⟩ := hletter.1
    exact ⟨'P', _, rfl, by decide⟩
  · have hletter := goesOnWithLetter_keyList _ (List.mem_of_getElem? hshort)
    rw [goesOnWithLetter, Bool.and_eq_true, List.drop_left] at hletter
    cases key with
    | nil => cases hletter.2
    | cons letter rest => exact ⟨letter, rest, rfl, hletter.2⟩

/-- A text that starts with a digit names no key. -/
theorem not_namesKey_of_digit {digit : Char} {rest : List Char} (h : digit.isDigit = true)
    (i : ℕ) : ¬ NamesKey (digit :: rest) i := by
  intro hname
  obtain ⟨letter, _, heq, hletter⟩ := hname.exists_cons
  obtain ⟨rfl, -⟩ := List.cons.inj heq
  exact absurd ((not_isDigit_of_isAlpha hletter).symm.trans h) Bool.false_ne_true

theorem findKey_of_some {key : List Char} {start i : ℕ} {names : List (List Char)}
    (h : findKey key start names = some i) :
    ∃ j, i = start + j ∧ (names[j]? = some key ∨ names[j]? = some (keyPrefix ++ key)) := by
  induction names generalizing start with
  | nil => cases h
  | cons name names ih =>
      rw [findKey] at h
      split_ifs at h with hfull hshort
      · exact ⟨0, (Option.some.inj h).symm, .inl (by rw [List.getElem?_cons_zero, hfull])⟩
      · exact ⟨0, (Option.some.inj h).symm, .inr (by rw [List.getElem?_cons_zero, hshort])⟩
      · obtain ⟨j, rfl, hnames⟩ := ih h
        exact ⟨j + 1, by omega, by rwa [List.getElem?_cons_succ]⟩

theorem findKey_of_none {key : List Char} {start : ℕ} {names : List (List Char)}
    (h : findKey key start names = none) (j : ℕ) :
    names[j]? ≠ some key ∧ names[j]? ≠ some (keyPrefix ++ key) := by
  induction names generalizing start j with
  | nil => exact ⟨nofun, nofun⟩
  | cons name names ih =>
      rw [findKey] at h
      split_ifs at h with hfull hshort
      cases j with
      | zero =>
          rw [List.getElem?_cons_zero]
          exact ⟨fun heq ↦ hfull (Option.some.inj heq),
            fun heq ↦ hshort (Option.some.inj heq).symm⟩
      | succ j =>
          rw [List.getElem?_cons_succ]
          exact ih h j

/-- A name is the name of a key in the list. -/
theorem NamesKey.lt {key : List Char} {i : ℕ} (h : NamesKey key i) : i < keyList.length := by
  rcases h with h | h
  · exact (List.getElem?_eq_some_iff.mp h).1
  · exact (List.getElem?_eq_some_iff.mp h).1

/-- The key of the documentation. -/
example : NamesKey "EvpHubURL".toList 30 := by
  right
  decide +kernel

/-! ## Accepted spellings -/

section CheckKey

variable [PythonRelease]

/-- Which texts spell an index as an integer. `int` reads a spelling as its index. -/
structure IndexSpelling where
  Spells : List Char → ℕ → Prop
  pythonInt_eq : ∀ key i, Spells key i → pythonInt key = some (i : ℤ)

/-- The strict spelling: the decimal numeral of an index in the list. -/
def IndexSpelling.numeral : IndexSpelling where
  Spells key i := i < keyList.length ∧ key = Nat.toDigits 10 i
  pythonInt_eq key i h := by
    obtain ⟨hlt, rfl⟩ := h
    apply pythonInt_toDigits
    calc (Nat.toDigits 10 i).length
        ≤ 3 := (Nat.length_toDigits_le_iff (by decide) (by decide)).mpr
          (hlt.trans (by rw [length_keyList]; decide))
      _ ≤ 640 := by decide

/-- The lenient spelling: whatever `int` reads as the index. -/
def IndexSpelling.anyInt : IndexSpelling where
  Spells key i := pythonInt key = some (i : ℤ)
  pythonInt_eq _ _ h := h

/-- A documented spelling of the key at an index. -/
def Documented (spelling : IndexSpelling) (key : List Char) (i : ℕ) : Prop :=
  NamesKey key i ∨ i < keyList.length ∧ spelling.Spells key i

/-- A text is resolved to the index of a key that it spells, or to none if it spells none. -/
structure Resolved (spelling : IndexSpelling) (key : List Char) : Prop where
  listed : ∀ value, checkKey key = some value →
    ∃ i : ℕ, value = i ∧ i < keyList.length ∧ Documented spelling key i
  refused : (∀ i, ¬ Documented spelling key i) → checkKey key = none

/-- A text is the name of a key, or `int` decides. -/
theorem checkKey_cases (key : List Char) :
    (∃ i : ℕ, checkKey key = some (i : ℤ) ∧ NamesKey key i) ∨
      checkKey key = pythonInt key ∧ ∀ i, ¬ NamesKey key i := by
  rw [checkKey]
  cases hfind : findKey key 0 keyList with
  | some i =>
      obtain ⟨j, rfl, hname⟩ := findKey_of_some hfind
      exact .inl ⟨0 + j, rfl, by rwa [Nat.zero_add]⟩
  | none =>
      refine .inr ⟨rfl, fun i hname ↦ ?_⟩
      obtain ⟨hfull, hshort⟩ := findKey_of_none hfind i
      exact hname.elim hfull hshort

theorem checkKey_of_digit {digit : Char} {rest : List Char} (h : digit.isDigit = true) :
    checkKey (digit :: rest) = pythonInt (digit :: rest) := by
  rcases checkKey_cases (digit :: rest) with ⟨i, -, hname⟩ | ⟨hcheck, -⟩
  · exact absurd hname (not_namesKey_of_digit h i)
  · exact hcheck

/-- A text is resolved as documented exactly when it is a name, or `int` does not read it, or it
spells an index in the list. -/
theorem resolved_iff (spelling : IndexSpelling) (key : List Char) :
    Resolved spelling key ↔
      (∃ i, NamesKey key i) ∨ pythonInt key = none ∨
        ∃ i < keyList.length, spelling.Spells key i := by
  rcases checkKey_cases key with ⟨i, hcheck, hname⟩ | ⟨hcheck, hno⟩
  · apply iff_of_true
    · constructor
      · intro value hvalue
        rw [hcheck] at hvalue
        exact ⟨i, (Option.some.inj hvalue).symm, hname.lt, .inl hname⟩
      · exact fun hnone ↦ absurd (.inl hname) (hnone i)
    · exact .inl ⟨i, hname⟩
  · constructor
    · intro h
      right
      cases hvalue : pythonInt key with
      | none => exact .inl rfl
      | some value =>
          obtain ⟨i, -, hlt, hdocumented⟩ := h.listed value (hcheck.trans hvalue)
          exact .inr ⟨i, hlt, (hdocumented.resolve_left (hno i)).2⟩
    · rintro (⟨i, hname⟩ | hnone | ⟨i, hlt, hspells⟩)
      · exact absurd hname (hno i)
      · refine ⟨fun value hvalue ↦ ?_, fun _ ↦ hcheck.trans hnone⟩
        rw [hcheck, hnone] at hvalue
        cases hvalue
      · have hdocumented : Documented spelling key i := .inr ⟨hlt, hspells⟩
        refine ⟨fun value hvalue ↦ ?_, fun hnone ↦ absurd hdocumented (hnone i)⟩
        rw [hcheck, spelling.pythonInt_eq key i hspells] at hvalue
        exact ⟨i, (Option.some.inj hvalue).symm, hlt, hdocumented⟩

end CheckKey

/-- A release that knows no digits but those of ASCII, with the usual limit. -/
@[reducible]
def asciiRelease : PythonRelease where
  decimal character := if character.isDigit then some (character.toNat - '0'.toNat) else none
  decimal_ascii _ _ := rfl
  maxStrDigits := some 4300
  le_maxStrDigits _ h := Option.some.inj h ▸ Nat.le_of_ble_eq_true rfl

theorem checkKey_1000 : @checkKey asciiRelease "1000".toList = some 1000 := by
  rw [String.toList_ofList, @checkKey_of_digit asciiRelease _ _ rfl]
  decide +kernel

/-- An integer behind the last index is taken for a key, whatever spells an index. -/
theorem not_resolved_1000 :
    ¬ ∃ spelling, @Resolved asciiRelease spelling "1000".toList := by
  rintro ⟨spelling, h⟩
  obtain ⟨i, hi, hlt, -⟩ := @Resolved.listed asciiRelease spelling _ h 1000 checkKey_1000
  rw [length_keyList] at hlt
  omega

end EdgeDeviceCore.Psm
