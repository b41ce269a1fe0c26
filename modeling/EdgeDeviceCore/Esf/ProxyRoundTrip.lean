import EdgeDeviceCore.Esf.ValueText

/-!
# Proxy settings through the cache

The strings of the cache come back from a buffer as `ProxyCache` describes it: shortened to leave
room for the terminator. With settings that fit their bounds nothing is shortened, so a successful
initialisation serves exactly the loaded settings.
-/

open EdgeDeviceCore.Platform EdgeDeviceCore.Data

namespace EdgeDeviceCore.Esf.ReadConfig

/-- Sizes under which the port array has room for a digit and the terminator. -/
class PortSizes extends MaxSizes where
  one_lt_port : 1 < MaxSizes.value .proxyPortLen

/-- The lengths of the proxy cache are the sizes of its keys. -/
instance PortSizes.proxyLengths [PortSizes] : ProxyLengths where
  url := MaxSizes.value .proxyUrlLen
  port := MaxSizes.value .proxyPortLen
  userName := MaxSizes.value .proxyUserNameLen
  password := MaxSizes.value .proxyPasswordLen
  one_lt_port := PortSizes.one_lt_port

theorem maxSize_proxy [PortSizes] (key : ProxyKey) :
    (SizedKey.proxy key).maxSize = key.bound := by
  cases key <;> rfl

section Refinement

variable [Errno] [PortSizes] [KeyNumbers]

/-- The string of a value and its size. -/
def readText (sources : Sources) (key : ProxyKey) : Option (CString × ℕ) :=
  (evpAgentEsfReadConfig sources (KeyNumbers.number (.proxy key))).config.map fun config ↦
    (readString config.value, config.size)

/-- The cached strings have no terminator inside. -/
def ProperCache (cache : ProxyCache) : Prop :=
  ∀ key string, cache.cached key = some string → string.Proper

/-- The value in the buffer of a proxy key is the one of the string model. -/
theorem readText_eq {sources : Sources} (h : ProperCache sources.proxyCache) (key : ProxyKey) :
    readText sources key =
      (readProxyText key ⟨sources.calloc, sources.malloc⟩ sources.proxyCache).map
        fun config ↦ (config.value, config.size) := by
  rw [readText, readConfig_number, readProxyText]
  cases hcached : sources.proxyCache.cached key with
  | none =>
      rw [filledBuffer_proxy_of_none hcached]
      cases sources.calloc <;> rfl
  | some string =>
      have hpos := SizedKey.maxSize_pos (.proxy key)
      have hproper : CString.Proper (string.take ((SizedKey.proxy key).maxSize - 1)) :=
        (h key string hcached).take _
      have hlength : (string.take ((SizedKey.proxy key).maxSize - 1)).length <
          (SizedKey.proxy key).maxSize + 1 := by
        rw [List.length_take]
        omega
      have hcells : (filledBuffer sources (.proxy key)).2.cells =
          padded (string.take ((SizedKey.proxy key).maxSize - 1))
            ((SizedKey.proxy key).maxSize + 1) := by
        rw [filledBuffer_proxy hcached, cells_strncpy_terminated string hpos,
          readString_of_proper (h key string hcached)]
      have hok : (filledBuffer sources (.proxy key)).1 = true := by rw [filledBuffer_proxy hcached]
      have hread : readString (filledBuffer sources (.proxy key)).2.cells =
          string.take ((SizedKey.proxy key).maxSize - 1) := by
        rw [hcells, padded_eq_append hlength, readString_append hproper]
      rw [hok, ← maxSize_proxy]
      cases sources.calloc <;> cases sources.malloc <;> simp [hread, strlen]

end Refinement

/-! ## Settings that fit -/

/-- Text of a port has no terminator inside. -/
theorem proper_portText (port : ℤ) : CString.Proper (portText port) := by
  have hdigits (n : ℕ) : Char.ofNat 0 ∉ Nat.toDigits 10 n := by
    intro hmem
    have hdigit := Nat.isDigit_of_mem_toDigits (by decide) le_rfl hmem
    exact absurd hdigit (by decide)
  cases port with
  | ofNat n =>
      have htext : portText (.ofNat n) = Nat.toDigits 10 n := Nat.toList_repr
      rw [htext]
      exact hdigits n
  | negSucc n =>
      have htext : portText (.negSucc n) = '-' :: Nat.toDigits 10 (n + 1) := by
        calc portText (.negSucc n)
            = ("-" ++ Nat.repr (n + 1)).toList := rfl
          _ = '-' :: (Nat.repr (n + 1)).toList := String.toList_append
          _ = '-' :: Nat.toDigits 10 (n + 1) := by rw [Nat.toList_repr]
      rw [htext, CString.Proper, List.mem_cons]
      rintro (hminus | hmem)
      · exact absurd hminus (by decide)
      · exact hdigits (n + 1) hmem

/-- The text of a port parses back to it. -/
theorem toInt?_portText (port : ℤ) : (String.ofList (portText port)).toInt? = some port := by
  rw [portText, String.ofList_toList]
  exact Int.toInt?_repr port

section Fits

variable [ProxyLengths]

/-- A string that fits a bound with its terminator. -/
structure FitsBound (string : CString) (bound : ℕ) : Prop where
  proper : string.Proper
  length_lt : string.length < bound

structure Fits (prm : ProxyParameter) : Prop where
  url : FitsBound prm.url ProxyLengths.url
  username : FitsBound prm.username ProxyLengths.userName
  password : FitsBound prm.password ProxyLengths.password

/-- The load fails, an allocation that is needed fails, or the port of a non-empty URL does not fit
its array. -/
def InitFails (answers : InitAnswers) : Prop :=
  answers.malloc = false ∨ answers.loadParameter = none ∨
    ∃ prm, answers.loadParameter = some prm ∧
      ((prm.url ≠ [] ∧ answers.strdupUrl = false) ∨
        (prm.username ≠ [] ∧ answers.strdupUsername = false) ∨
        (prm.password ≠ [] ∧ answers.strdupPassword = false) ∨
        (prm.url ≠ [] ∧ ProxyLengths.port - 1 < (portText prm.port).length))

omit [ProxyLengths] in
theorem not_needed_imp_iff {needed : Prop} {allocated : Bool} :
    ¬ (needed → allocated = true) ↔ needed ∧ allocated = false := by
  rw [Classical.not_imp, Bool.not_eq_true]

theorem not_savesHostAndPort_iff {answers : InitAnswers} {prm : ProxyParameter} :
    ¬ answers.SavesHostAndPort prm ↔
      (prm.url ≠ [] ∧ answers.strdupUrl = false) ∨
        (prm.url ≠ [] ∧ ProxyLengths.port - 1 < (portText prm.port).length) := by
  have hroom := ProxyLengths.one_lt_port
  have hlength : ¬ (portText prm.port).length < ProxyLengths.port ↔
      ProxyLengths.port - 1 < (portText prm.port).length := by omega
  rw [InitAnswers.SavesHostAndPort, Classical.not_imp, not_and_or, Bool.not_eq_true, hlength,
    and_or_left]

theorem not_succeeds_iff (answers : InitAnswers) : ¬ answers.Succeeds ↔ InitFails answers := by
  cases hload : answers.loadParameter with
  | none =>
      apply iff_of_true
      · rintro ⟨-, prm, hprm, -⟩
        cases hload.symm.trans hprm
      · exact .inr (.inl hload)
  | some prm =>
      have hsucceeds : answers.Succeeds ↔ answers.malloc = true ∧ answers.SavesHostAndPort prm ∧
          (prm.username ≠ [] → answers.strdupUsername = true) ∧
          (prm.password ≠ [] → answers.strdupPassword = true) := by
        simp only [InitAnswers.Succeeds, hload, Option.some.injEq, exists_eq_left']
      rw [hsucceeds, not_and_or, not_and_or, not_and_or, not_savesHostAndPort_iff,
        not_needed_imp_iff, not_needed_imp_iff, Bool.not_eq_true, or_right_comm, or_assoc, or_assoc]
      simp only [InitFails, hload, Option.some.injEq, exists_eq_left', reduceCtorEq, false_or]

/-- An initialisation of the empty cache makes exactly the cache of the loaded settings. -/
theorem init_empty_of_succeeds {answers : InitAnswers} (h : answers.Succeeds) :
    ∃ prm, answers.loadParameter = some prm ∧ answers.SavesHostAndPort prm ∧
      evpAgentEsfInitProxyCache answers .empty = (.ok (), .of prm) := by
  have hcleared : ProxyCache.empty.Cleared := ⟨rfl, rfl, rfl⟩
  obtain ⟨prm, hload, hinit⟩ := init_of_succeeds h hcleared
  obtain ⟨-, other, hother, hsaves, -⟩ := h
  obtain rfl := Option.some.inj (hload.symm.trans hother)
  exact ⟨prm, hload, hsaves, hinit⟩

theorem init_empty_ne_ok_iff (answers : InitAnswers) :
    (evpAgentEsfInitProxyCache answers .empty).1 ≠ .ok () ↔ InitFails answers := by
  rw [← not_succeeds_iff]
  constructor
  · intro hne hsucceeds
    obtain ⟨prm, -, -, hinit⟩ := init_empty_of_succeeds hsucceeds
    exact hne (by rw [hinit])
  · intro hfails
    exact init_of_not_succeeds hfails .empty

/-- What a cache of settings serves at a key. -/
def served (prm : ProxyParameter) : ProxyKey → Option (CString × ℕ)
  | .mqttProxyHost | .httpProxyHost =>
      if prm.url = [] then none else some (prm.url, prm.url.length + 1)
  | .mqttProxyPort | .httpProxyPort =>
      if prm.url = [] then none else some (portText prm.port, (portText prm.port).length + 1)
  | .mqttProxyUsername | .httpProxyUsername =>
      if prm.username = [] then none else some (prm.username, prm.username.length + 1)
  | .mqttProxyPassword | .httpProxyPassword =>
      if prm.password = [] then none else some (prm.password, prm.password.length + 1)

/-- Each cached string fits the size of its key, and there is one exactly where settings give it. -/
theorem cached_of_fits {prm : ProxyParameter} {answers : InitAnswers} (hfits : Fits prm)
    (hsaves : answers.SavesHostAndPort prm) (key : ProxyKey) :
    ((ProxyCache.of prm).cached key = none ∧ served prm key = none) ∨
      ∃ string, (ProxyCache.of prm).cached key = some string ∧
        FitsBound string (key.bound) ∧ served prm key = some (string, string.length + 1) := by
  have hstring {string : CString} {bound : ℕ} (h : FitsBound string bound) :
      ((if string ≠ [] then some string else none) = none ∧
        (if string = [] then none else some (string, string.length + 1)) = none) ∨
      ∃ other, (if string ≠ [] then some string else none) = some other ∧
        FitsBound other bound ∧
        (if string = [] then none else some (string, string.length + 1)) =
          some (other, other.length + 1) := by
    by_cases hnil : string = []
    · exact .inl ⟨if_neg (not_not_intro hnil), if_pos hnil⟩
    · exact .inr ⟨string, if_pos hnil, h, if_neg hnil⟩
  have hport : (ProxyCache.of prm).cached .mqttProxyPort = none ∧
        served prm .mqttProxyPort = none ∨
      ∃ string, (ProxyCache.of prm).cached .mqttProxyPort = some string ∧
        FitsBound string ProxyLengths.port ∧
        served prm .mqttProxyPort = some (string, string.length + 1) := by
    by_cases hurl : prm.url = []
    · exact .inl ⟨by simp [ProxyCache.of, ProxyCache.cached, hurl], if_pos hurl⟩
    · have hcached : (ProxyCache.of prm).cached .mqttProxyPort = some (portText prm.port) := by
        simp [ProxyCache.of, ProxyCache.cached, hurl, portText_ne_nil]
      exact .inr ⟨_, hcached, ⟨proper_portText _, (hsaves hurl).2⟩, if_neg hurl⟩
  cases key with
  | mqttProxyHost => exact hstring hfits.url
  | httpProxyHost => exact hstring hfits.url
  | mqttProxyPort => exact hport
  | httpProxyPort => exact hport
  | mqttProxyUsername => exact hstring hfits.username
  | httpProxyUsername => exact hstring hfits.username
  | mqttProxyPassword => exact hstring hfits.password
  | httpProxyPassword => exact hstring hfits.password

end Fits

/-- Sources with a given cache and no allocation failure. -/
def Sources.serving [MaxSizes] (sources : Sources) (cache : ProxyCache) : Sources :=
  { sources with calloc := true, malloc := true, proxyCache := cache }

section RoundTrip

variable [Errno] [PortSizes] [KeyNumbers]

theorem readText_serving {prm : ProxyParameter} {answers : InitAnswers} (hfits : Fits prm)
    (hsaves : answers.SavesHostAndPort prm) (sources : Sources) (key : ProxyKey) :
    readText (sources.serving (.of prm)) key = served prm key := by
  have hproper : ProperCache (sources.serving (.of prm)).proxyCache := by
    intro key string hcached
    rcases cached_of_fits hfits hsaves key with ⟨hnone, -⟩ | ⟨other, hother, hfit, -⟩
    · exact absurd (hnone.symm.trans hcached) nofun
    · obtain rfl := Option.some.inj (hother.symm.trans hcached)
      exact hfit.proper
  have hread : readText (sources.serving (.of prm)) key =
      (readProxyText key ⟨true, true⟩ (.of prm)).map fun config ↦
        (config.value, config.size) := readText_eq hproper key
  rw [hread]
  rcases cached_of_fits hfits hsaves key with ⟨hnone, hserved⟩ | ⟨string, hcached, hfit, hserved⟩
  · rw [readProxyText, if_pos rfl, hnone, hserved]
    rfl
  · have htake : string.take (key.bound - 1) = string :=
      List.take_of_length_le (Nat.le_sub_one_of_lt hfit.length_lt)
    rw [readProxyText, if_pos rfl, hcached, hserved]
    dsimp only
    rw [htake, if_pos rfl, Option.map_some]

/-- From the empty cache, an initialisation fails exactly for one of its reasons, and after one that
succeeds every key serves the loaded setting, with a port that parses back to its number. -/
theorem proxyCache_roundTrip (answers : InitAnswers)
    (h : ∀ prm, answers.loadParameter = some prm → Fits prm) :
    ((evpAgentEsfInitProxyCache answers .empty).1 ≠ .ok () ↔ InitFails answers) ∧
      ((evpAgentEsfInitProxyCache answers .empty).1 = .ok () →
        ∃ prm, answers.loadParameter = some prm ∧
          (∀ sources key,
            readText (Sources.serving sources (evpAgentEsfInitProxyCache answers .empty).2) key =
              served prm key) ∧
          (String.ofList (portText prm.port)).toInt? = some prm.port) := by
  refine ⟨init_empty_ne_ok_iff answers, fun hok ↦ ?_⟩
  have hsucceeds : answers.Succeeds := by
    by_contra hnot
    exact (init_empty_ne_ok_iff answers).mpr ((not_succeeds_iff answers).mp hnot) hok
  obtain ⟨prm, hload, hsaves, hinit⟩ := init_empty_of_succeeds hsucceeds
  refine ⟨prm, hload, fun sources key ↦ ?_, toInt?_portText prm.port⟩
  rw [hinit]
  exact readText_serving (h prm hload) hsaves sources key

end RoundTrip

/-- Settings with a URL and a port only. -/
def urlSettings : ProxyParameter := ⟨['u', 'r', 'l'], 8080, [], []⟩

def urlAnswers : InitAnswers := ⟨true, some urlSettings, true, true, true⟩

@[reducible]
def portSizes64 : PortSizes where
  toMaxSizes := sizes64
  one_lt_port := Nat.lt_of_sub_eq_succ rfl

theorem fits_urlSettings : @Fits (@PortSizes.proxyLengths portSizes64) urlSettings :=
  @Fits.mk (@PortSizes.proxyLengths portSizes64) _ ⟨by decide, by decide⟩
    ⟨by decide, by decide⟩ ⟨by decide, by decide⟩

theorem proxyCache_roundTrip_urlSettings :
    @readText Errno.linux portSizes64 .inOrder
      (@Sources.serving sizes64 (@keyFileSources sizes64 [])
        (@evpAgentEsfInitProxyCache (@PortSizes.proxyLengths portSizes64) urlAnswers .empty).2)
      .httpProxyPort = some ("8080".toList, 5) := by
  have hfits : ∀ prm, urlAnswers.loadParameter = some prm →
      @Fits (@PortSizes.proxyLengths portSizes64) prm := by
    intro prm hload
    obtain rfl := Option.some.inj hload
    exact fits_urlSettings
  have hok : (@evpAgentEsfInitProxyCache (@PortSizes.proxyLengths portSizes64) urlAnswers
      .empty).1 = .ok () := by
    decide +kernel
  obtain ⟨prm, hload, hread, -⟩ :=
    (@proxyCache_roundTrip Errno.linux portSizes64 .inOrder urlAnswers hfits).2 hok
  obtain rfl := Option.some.inj hload
  rw [hread]
  decide +kernel

end EdgeDeviceCore.Esf.ReadConfig
