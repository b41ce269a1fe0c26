import EdgeDeviceCore.Platform.CString

/-!
# The proxy cache of `esf.c`

`evp_agent_esf_init_proxy_cache` loads the proxy settings into `g_proxy_cache`, from where
`evp_agent_esf_read_config` serves the proxy keys, and `evp_agent_esf_deinit_proxy_cache` clears
the cache. Clearing resets the three heap strings but not the port. So from the first
initialisation that stores a port on, the port stays readable, whatever happens to the cache. The
answers of `malloc`, `strdup` and the network manager are inputs of each call.
-/

open EdgeDeviceCore.Platform

namespace EdgeDeviceCore.Esf

/-- The `ESF_NETWORK_MANAGER_PROXY_*_LEN` of the network manager. -/
class ProxyLengths where
  url : ℕ
  port : ℕ
  userName : ℕ
  password : ℕ
  /-- The port array has room for a digit and the terminator. -/
  one_lt_port : 1 < port

/-- `struct proxy_cache`, with `none` for `NULL`. -/
structure ProxyCache where
  host : Option CString
  port : CString
  username : Option CString
  password : Option CString
deriving DecidableEq, Repr

/-- The cache of a process that has just started. -/
def ProxyCache.empty : ProxyCache := ⟨none, [], none, none⟩

/-- The proxy settings of an `EsfNetworkManagerParameter`. -/
structure ProxyParameter where
  url : CString
  port : ℤ
  username : CString
  password : CString
deriving DecidableEq, Repr

/-- What one call of `evp_agent_esf_init_proxy_cache` is answered. -/
structure InitAnswers where
  malloc : Bool
  /-- What `EsfNetworkManagerLoadParameter` loads, if it succeeds. -/
  loadParameter : Option ProxyParameter
  strdupUrl : Bool
  strdupUsername : Bool
  strdupPassword : Bool
deriving DecidableEq, Repr

/-- The error numbers that the initialisation returns. -/
inductive InitError where
  | enomem | eio | erange
deriving DecidableEq, Repr

/-! ## The functions of `esf.c` -/

def evpAgentEsfDeinitProxyCache (cache : ProxyCache) : ProxyCache :=
  { cache with host := none, username := none, password := none }

/-- `snprintf` of `%d`. -/
def portText (port : ℤ) : CString := (toString port).toList

/-- A part of the initialisation. -/
abbrev InitStep := ProxyCache → Except InitError Unit × ProxyCache

/-- An error goes to the label `end`. -/
def InitStep.andThen (first next : InitStep) : InitStep := fun cache ↦
  match first cache with
  | (.ok (), cache) => next cache
  | (.error error, cache) => (.error error, cache)

section

variable [ProxyLengths]

/-- Save the proxy host and the proxy port to the cache. -/
def saveHostAndPort (answers : InitAnswers) (prm : ProxyParameter) : InitStep := fun cache ↦
  if prm.url ≠ [] then
    if answers.strdupUrl then
      let cache := { cache with host := some prm.url }
      let portStr := portText prm.port
      let cache := { cache with port := portStr.take (ProxyLengths.port - 1) }
      if portStr.length ≥ ProxyLengths.port then (.error .erange, cache) else (.ok (), cache)
    else (.error .enomem, cache)
  else (.ok (), cache)

def saveUsername (answers : InitAnswers) (prm : ProxyParameter) : InitStep := fun cache ↦
  if prm.username ≠ [] then
    if answers.strdupUsername then (.ok (), { cache with username := some prm.username })
    else (.error .enomem, cache)
  else (.ok (), cache)

def savePassword (answers : InitAnswers) (prm : ProxyParameter) : InitStep := fun cache ↦
  if prm.password ≠ [] then
    if answers.strdupPassword then (.ok (), { cache with password := some prm.password })
    else (.error .enomem, cache)
  else (.ok (), cache)

/-- The body up to the label `end`. -/
def loadProxyCache (answers : InitAnswers) : InitStep := fun cache ↦
  if answers.malloc then
    match answers.loadParameter with
    | some prm =>
        (saveHostAndPort answers prm).andThen
          ((saveUsername answers prm).andThen (savePassword answers prm)) cache
    | none => (.error .eio, cache)
  else (.error .enomem, cache)

def evpAgentEsfInitProxyCache (answers : InitAnswers) : InitStep := fun cache ↦
  match loadProxyCache answers cache with
  | (.ok (), cache) => (.ok (), cache)
  | (.error error, cache) => (.error error, evpAgentEsfDeinitProxyCache cache)

end

/-- The proxy keys of `enum config_key`. -/
inductive ProxyKey where
  | mqttProxyHost | mqttProxyPort | mqttProxyUsername | mqttProxyPassword
  | httpProxyHost | httpProxyPort | httpProxyUsername | httpProxyPassword
deriving DecidableEq, Repr

/-- A proxy setting that is read, as a text. -/
structure ProxyText where
  key : ProxyKey
  value : CString
  size : ℕ
deriving DecidableEq, Repr

/-- Whether the allocations of one read succeed. -/
structure ReadAnswers where
  calloc : Bool
  malloc : Bool

/-- The string that the switch over the key copies, if it is there. -/
def ProxyCache.cached (cache : ProxyCache) : ProxyKey → Option CString
  | .mqttProxyHost | .httpProxyHost => cache.host
  | .mqttProxyPort | .httpProxyPort => if cache.port ≠ [] then some cache.port else none
  | .mqttProxyUsername | .httpProxyUsername => cache.username
  | .mqttProxyPassword | .httpProxyPassword => cache.password

/-- The size that `g_max_sizes` has for the key. -/
def ProxyKey.bound [ProxyLengths] : ProxyKey → ℕ
  | .mqttProxyHost | .httpProxyHost => ProxyLengths.url
  | .mqttProxyPort | .httpProxyPort => ProxyLengths.port
  | .mqttProxyUsername | .httpProxyUsername => ProxyLengths.userName
  | .mqttProxyPassword | .httpProxyPassword => ProxyLengths.password

/-- What a read of a proxy key is for. `evp_agent_esf_read_config` itself works on the bytes of a
buffer, as `ReadConfig.evpAgentEsfReadConfig`; `ReadConfig.readText_eq` connects the two. -/
def readProxyText [ProxyLengths] (key : ProxyKey) (answers : ReadAnswers)
    (cache : ProxyCache) : Option ProxyText :=
  if answers.calloc then
    match cache.cached key with
    | some string =>
        let value := string.take (key.bound - 1)
        if answers.malloc then some ⟨key, value, value.length + 1⟩ else none
    | none => none
  else none

/-! ## What an initialisation does -/

/-- The initialisation comes to the port. -/
def InitAnswers.StoresPort (answers : InitAnswers) : Prop :=
  answers.malloc = true ∧ answers.strdupUrl = true ∧
    ∃ prm, answers.loadParameter = some prm ∧ prm.url ≠ []

/-- The cache that settings make. -/
def ProxyCache.of (prm : ProxyParameter) : ProxyCache where
  host := if prm.url ≠ [] then some prm.url else none
  port := if prm.url ≠ [] then portText prm.port else []
  username := if prm.username ≠ [] then some prm.username else none
  password := if prm.password ≠ [] then some prm.password else none

/-- The heap strings are `NULL`. -/
def ProxyCache.Cleared (cache : ProxyCache) : Prop :=
  cache.host = none ∧ cache.username = none ∧ cache.password = none

theorem portText_ne_nil (port : ℤ) : portText port ≠ [] := by
  cases port <;> simp [portText, toString, Int.repr]

theorem cleared_deinit (cache : ProxyCache) : (evpAgentEsfDeinitProxyCache cache).Cleared :=
  ⟨rfl, rfl, rfl⟩

section AndThen

variable {first next : InitStep} {cache after : ProxyCache}

theorem andThen_of_ok (h : first cache = (.ok (), after)) :
    first.andThen next cache = next after := by
  rw [InitStep.andThen, h]

theorem andThen_of_error {error : InitError} (h : first cache = (.error error, after)) :
    first.andThen next cache = (.error error, after) := by
  rw [InitStep.andThen, h]

theorem port_andThen (hnext : ∀ cache, (next cache).2.port = cache.port) (cache : ProxyCache) :
    (first.andThen next cache).2.port = (first cache).2.port := by
  unfold InitStep.andThen
  split
  · next hfirst => rw [hfirst, hnext]
  · next hfirst => rw [hfirst]

end AndThen

section Init

variable [ProxyLengths] {answers : InitAnswers} {prm : ProxyParameter} {cache : ProxyCache}

/-- What is stored of a port is not empty. -/
theorem take_portText_ne_nil (port : ℤ) : (portText port).take (ProxyLengths.port - 1) ≠ [] := by
  have hroom := ProxyLengths.one_lt_port
  rw [ne_eq, List.take_eq_nil_iff]
  rintro (hzero | hnil)
  · omega
  · exact portText_ne_nil port hnil

/-- The URL is copied and its port fits, or there is no URL. -/
def InitAnswers.SavesHostAndPort (answers : InitAnswers) (prm : ProxyParameter) : Prop :=
  prm.url ≠ [] → answers.strdupUrl = true ∧ (portText prm.port).length < ProxyLengths.port

theorem saveHostAndPort_ok (h : answers.SavesHostAndPort prm) (cache : ProxyCache) :
    saveHostAndPort answers prm cache =
      (.ok (), { cache with
        host := if prm.url ≠ [] then some prm.url else cache.host
        port := if prm.url ≠ [] then portText prm.port else cache.port }) := by
  by_cases hurl : prm.url ≠ []
  · obtain ⟨hstrdup, hlength⟩ := h hurl
    have htake : (portText prm.port).take (ProxyLengths.port - 1) = portText prm.port :=
      List.take_of_length_le (by omega)
    simp only [saveHostAndPort, if_pos hurl, if_pos hstrdup, htake, if_neg (Nat.not_le.mpr hlength)]
  · simp only [saveHostAndPort, if_neg hurl]

theorem saveHostAndPort_error (h : ¬ answers.SavesHostAndPort prm) (cache : ProxyCache) :
    ∃ error after, saveHostAndPort answers prm cache = (.error error, after) := by
  rw [InitAnswers.SavesHostAndPort] at h
  push Not at h
  obtain ⟨hurl, hfails⟩ := h
  unfold saveHostAndPort
  rw [if_pos hurl]
  by_cases hstrdup : answers.strdupUrl = true
  · rw [if_pos hstrdup]
    dsimp only
    rw [if_pos (hfails hstrdup)]
    exact ⟨_, _, rfl⟩
  · rw [if_neg hstrdup]
    exact ⟨_, _, rfl⟩

theorem port_saveHostAndPort :
    (saveHostAndPort answers prm cache).2.port =
      if prm.url ≠ [] ∧ answers.strdupUrl = true then
        (portText prm.port).take (ProxyLengths.port - 1)
      else cache.port := by
  unfold saveHostAndPort
  by_cases hurl : prm.url ≠ []
  · by_cases hstrdup : answers.strdupUrl = true
    · have hboth : prm.url ≠ [] ∧ answers.strdupUrl = true := ⟨hurl, hstrdup⟩
      rw [if_pos hurl, if_pos hstrdup, if_pos hboth]
      dsimp only
      split <;> rfl
    · rw [if_pos hurl, if_neg hstrdup, if_neg fun h ↦ hstrdup h.2]
  · rw [if_neg hurl, if_neg fun h ↦ hurl h.1]

omit [ProxyLengths] in
theorem saveUsername_eq (cache : ProxyCache) :
    saveUsername answers prm cache =
      if prm.username ≠ [] → answers.strdupUsername = true then
        (.ok (), { cache with
          username := if prm.username ≠ [] then some prm.username else cache.username })
      else (.error .enomem, cache) := by
  unfold saveUsername
  by_cases husername : prm.username ≠ [] <;> simp [husername]

omit [ProxyLengths] in
theorem savePassword_eq (cache : ProxyCache) :
    savePassword answers prm cache =
      if prm.password ≠ [] → answers.strdupPassword = true then
        (.ok (), { cache with
          password := if prm.password ≠ [] then some prm.password else cache.password })
      else (.error .enomem, cache) := by
  unfold savePassword
  by_cases hpassword : prm.password ≠ [] <;> simp [hpassword]

/-- Every answer that the initialisation asks for is good. -/
def InitAnswers.Succeeds (answers : InitAnswers) : Prop :=
  answers.malloc = true ∧ ∃ prm, answers.loadParameter = some prm ∧
    answers.SavesHostAndPort prm ∧
    (prm.username ≠ [] → answers.strdupUsername = true) ∧
    (prm.password ≠ [] → answers.strdupPassword = true)

/-- An initialisation with good answers makes the cache of its settings, but for the port. -/
theorem init_of_succeeds (h : answers.Succeeds) (hcleared : cache.Cleared) :
    ∃ prm, answers.loadParameter = some prm ∧
      evpAgentEsfInitProxyCache answers cache =
        (.ok (), { ProxyCache.of prm with
          port := if prm.url ≠ [] then portText prm.port else cache.port }) := by
  obtain ⟨hmalloc, prm, hload, hurl, husername, hpassword⟩ := h
  obtain ⟨hhost, huser, hpass⟩ := hcleared
  have hloaded : loadProxyCache answers cache =
      (.ok (), { ProxyCache.of prm with
        port := if prm.url ≠ [] then portText prm.port else cache.port }) := by
    simp only [loadProxyCache, if_pos hmalloc, hload]
    rw [andThen_of_ok (saveHostAndPort_ok hurl cache),
      andThen_of_ok ((saveUsername_eq _).trans (if_pos husername)), savePassword_eq,
      if_pos hpassword]
    simp only [ProxyCache.of, hhost, huser, hpass]
  exact ⟨prm, hload, by rw [evpAgentEsfInitProxyCache, hloaded]⟩

theorem loadProxyCache_of_not_succeeds (h : ¬ answers.Succeeds) (cache : ProxyCache) :
    ∃ error after, loadProxyCache answers cache = (.error error, after) := by
  unfold loadProxyCache
  by_cases hmalloc : answers.malloc = true
  · rw [if_pos hmalloc]
    cases hload : answers.loadParameter with
    | none => exact ⟨_, _, rfl⟩
    | some prm =>
        dsimp only
        by_cases hurl : answers.SavesHostAndPort prm
        · rw [andThen_of_ok (saveHostAndPort_ok hurl cache)]
          by_cases husername : prm.username ≠ [] → answers.strdupUsername = true
          · have hpassword : ¬ (prm.password ≠ [] → answers.strdupPassword = true) :=
              fun hpassword ↦ h ⟨hmalloc, prm, hload, hurl, husername, hpassword⟩
            rw [andThen_of_ok ((saveUsername_eq _).trans (if_pos husername)), savePassword_eq,
              if_neg hpassword]
            exact ⟨_, _, rfl⟩
          · rw [andThen_of_error ((saveUsername_eq _).trans (if_neg husername))]
            exact ⟨_, _, rfl⟩
        · obtain ⟨error, after, herror⟩ := saveHostAndPort_error hurl cache
          exact ⟨error, after, andThen_of_error herror⟩
  · rw [if_neg hmalloc]
    exact ⟨_, _, rfl⟩

/-- Any other initialisation fails. -/
theorem init_of_not_succeeds (h : ¬ answers.Succeeds) (cache : ProxyCache) :
    (evpAgentEsfInitProxyCache answers cache).1 ≠ .ok () := by
  obtain ⟨error, after, herror⟩ := loadProxyCache_of_not_succeeds h cache
  rw [evpAgentEsfInitProxyCache, herror]
  exact nofun

/-- An initialisation that fails clears the heap strings. -/
theorem cleared_of_init_ne_ok (h : (evpAgentEsfInitProxyCache answers cache).1 ≠ .ok ()) :
    (evpAgentEsfInitProxyCache answers cache).2.Cleared := by
  rcases hload : loadProxyCache answers cache with ⟨ret, after⟩
  rw [evpAgentEsfInitProxyCache, hload] at h ⊢
  cases ret with
  | ok => exact absurd rfl h
  | error error => exact cleared_deinit after

/-- The port that an initialisation leaves, whether it fails later or not. -/
theorem port_init (answers : InitAnswers) (cache : ProxyCache) :
    (evpAgentEsfInitProxyCache answers cache).2.port = (loadProxyCache answers cache).2.port := by
  unfold evpAgentEsfInitProxyCache
  split
  · next hload => rw [hload]
  · next hload =>
      rw [hload]
      rfl

theorem port_loadProxyCache (hmalloc : answers.malloc = true)
    (hload : answers.loadParameter = some prm) :
    (loadProxyCache answers cache).2.port = (saveHostAndPort answers prm cache).2.port := by
  have hpassword (cache : ProxyCache) : (savePassword answers prm cache).2.port = cache.port := by
    rw [savePassword_eq]
    split <;> rfl
  have husername (cache : ProxyCache) : (saveUsername answers prm cache).2.port = cache.port := by
    rw [saveUsername_eq]
    split <;> rfl
  simp only [loadProxyCache, if_pos hmalloc, hload]
  apply port_andThen
  intro cache
  rw [port_andThen hpassword, husername]

theorem port_init_of_storesPort (h : answers.StoresPort) (cache : ProxyCache) :
    (evpAgentEsfInitProxyCache answers cache).2.port ≠ [] := by
  obtain ⟨hmalloc, hstrdup, prm, hload, hurl⟩ := h
  rw [port_init, port_loadProxyCache hmalloc hload, port_saveHostAndPort, if_pos ⟨hurl, hstrdup⟩]
  exact take_portText_ne_nil prm.port

theorem port_init_of_not_storesPort (h : ¬ answers.StoresPort) (cache : ProxyCache) :
    (evpAgentEsfInitProxyCache answers cache).2.port = cache.port := by
  rw [port_init]
  by_cases hmalloc : answers.malloc = true
  · cases hload : answers.loadParameter with
    | none => simp only [loadProxyCache, if_pos hmalloc, hload]
    | some prm =>
        rw [port_loadProxyCache hmalloc hload, port_saveHostAndPort, if_neg]
        exact fun hstores ↦ h ⟨hmalloc, hstores.2, prm, hload, hstores.1⟩
  · simp only [loadProxyCache, if_neg hmalloc]

end Init

end EdgeDeviceCore.Esf
