import EdgeDeviceCore.Esf.Memory
import EdgeDeviceCore.Esf.ProxyCache

/-!
# The memory of the proxy cache

The initialisation and the clearing of the proxy cache with the blocks that they acquire and
release. An initialisation of a cleared cache holds nothing afterwards but the strings of the cache,
whatever fails in it, and clearing the cache gives those back.
-/

open EdgeDeviceCore.Platform
open EdgeDeviceCore.Semantics.Resources

namespace EdgeDeviceCore.Esf.Memory

/-- `struct proxy_cache`, with the blocks of its strings. -/
structure ProxyCache where
  host : Option OwnedString
  port : CString
  username : Option OwnedString
  password : Option OwnedString

namespace ProxyCache

/-- The strings of the cache. -/
def data (cache : ProxyCache) : Esf.ProxyCache where
  host := cache.host.map OwnedString.text
  port := cache.port
  username := cache.username.map OwnedString.text
  password := cache.password.map OwnedString.text

def empty : ProxyCache := ⟨none, [], none, none⟩

/-- The blocks that the cache owns. -/
def blocks (cache : ProxyCache) : Multiset (Handle Resource) :=
  owned (cache.password.map OwnedString.pointer) + owned (cache.username.map OwnedString.pointer) +
    owned (cache.host.map OwnedString.pointer)

/-- The string behind a proxy key, unless it is the port, which stands in the cache itself. -/
def string (cache : ProxyCache) : ProxyKey → Option OwnedString
  | .mqttProxyHost | .httpProxyHost => cache.host
  | .mqttProxyPort | .httpProxyPort => none
  | .mqttProxyUsername | .httpProxyUsername => cache.username
  | .mqttProxyPassword | .httpProxyPassword => cache.password

theorem mem_blocks_of_string {cache : ProxyCache} {key : ProxyKey} {string : OwnedString}
    (h : cache.string key = some string) : string.pointer ∈ cache.blocks := by
  rw [ProxyCache.string.eq_def] at h
  rw [blocks]
  cases key <;> simp_all

end ProxyCache

/-- A pointer that is freed if it is not `NULL`, and reset. -/
def evpAgentEsfDeinitProxyCache (cache : ProxyCache) : Program Resource ProxyCache := do
  free (cache.host.map OwnedString.pointer)
  free (cache.username.map OwnedString.pointer)
  free (cache.password.map OwnedString.pointer)
  pure { cache with host := none, username := none, password := none }

/-- A part of the initialisation. -/
abbrev InitStep := ProxyCache → Program Resource (Except InitError Unit × ProxyCache)

/-- An error goes to the label `end`. -/
def InitStep.andThen (first next : InitStep) : InitStep := fun cache ↦ do
  match ← first cache with
  | (.ok (), cache) => next cache
  | (.error error, cache) => pure (.error error, cache)

section

variable [ProxyLengths]

/-- Save the proxy host and the proxy port to the cache. -/
def saveHostAndPort (answers : InitAnswers) (prm : ProxyParameter) : InitStep := fun cache ↦
  if prm.url ≠ [] then do
    let host ← strdup prm.url answers.strdupUrl
    let cache := { cache with host := host }
    if host.isSome then
      let portStr := portText prm.port
      let cache := { cache with port := portStr.take (ProxyLengths.port - 1) }
      if portStr.length ≥ ProxyLengths.port then pure (.error .erange, cache)
      else pure (.ok (), cache)
    else pure (.error .enomem, cache)
  else pure (.ok (), cache)

/-- Save a string to the cache, if it is set. -/
def saveString (text : CString) (succeeds : Bool)
    (store : Option OwnedString → ProxyCache → ProxyCache) : InitStep := fun cache ↦
  if text ≠ [] then do
    let string ← strdup text succeeds
    pure (if string.isSome then .ok () else .error .enomem, store string cache)
  else pure (.ok (), cache)

def saveUsername (answers : InitAnswers) (prm : ProxyParameter) : InitStep :=
  saveString prm.username answers.strdupUsername fun string cache ↦
    { cache with username := string }

def savePassword (answers : InitAnswers) (prm : ProxyParameter) : InitStep :=
  saveString prm.password answers.strdupPassword fun string cache ↦
    { cache with password := string }

/-- The body up to the label `end`, with the memory for the settings. -/
def loadProxyCache (answers : InitAnswers) (prm : Pointer) : InitStep := fun cache ↦
  match prm with
  | none => pure (.error .enomem, cache)
  | some block => do
      use block
      match answers.loadParameter with
      | some prm =>
          (saveHostAndPort answers prm).andThen
            ((saveUsername answers prm).andThen (savePassword answers prm)) cache
      | none => pure (.error .eio, cache)

def evpAgentEsfInitProxyCache (answers : InitAnswers) : InitStep := fun cache ↦ do
  let prm ← tryAcquire .block answers.malloc
  let (ret, cache) ← loadProxyCache answers prm cache
  free prm
  match ret with
  | .ok () => pure (.ok (), cache)
  | .error error => do
      let cache ← evpAgentEsfDeinitProxyCache cache
      pure (.error error, cache)

/-! ### What is held -/

omit [ProxyLengths] in
theorem triple_deinitProxyCache (cache : ProxyCache) :
    Triple cache.blocks (evpAgentEsfDeinitProxyCache cache) fun after rest ↦
      after.data = Esf.evpAgentEsfDeinitProxyCache cache.data ∧ after.blocks = 0 ∧ rest = 0 := by
  rw [ProxyCache.blocks, ← zero_add (owned (cache.password.map _))]
  apply Triple.releaseAny_bind
  apply Triple.releaseAny_bind
  apply Triple.releaseAny_bind
  exact Triple.pure ⟨rfl, rfl, rfl⟩

/-- A step of the initialisation: what it owns then are the blocks of the cache, and the cache has
the strings that the step without memory gives it. After an error only the port counts. -/
def Saves (expected : Except InitError Unit × Esf.ProxyCache)
    (result : Except InitError Unit × ProxyCache) (rest : Multiset (Handle Resource)) : Prop :=
  rest = result.2.blocks ∧ result.1 = expected.1 ∧ result.2.port = expected.2.port ∧
    (result.1 = .ok () → result.2.data = expected.2)

omit [ProxyLengths] in
theorem Saves.ok {cache : ProxyCache} {expected : Esf.ProxyCache}
    {own : Multiset (Handle Resource)} (hown : own = cache.blocks) (hdata : cache.data = expected) :
    Saves (.ok (), expected) (.ok (), cache) own :=
  ⟨hown, rfl, congrArg Esf.ProxyCache.port hdata, fun _ ↦ hdata⟩

omit [ProxyLengths] in
theorem Saves.error {error : InitError} {cache : ProxyCache} {expected : Esf.ProxyCache}
    {own : Multiset (Handle Resource)} (hown : own = cache.blocks)
    (hport : cache.port = expected.port) :
    Saves (.error error, expected) (.error error, cache) own := by
  refine ⟨hown, rfl, hport, fun hok ↦ ?_⟩
  cases hok

theorem triple_saveHostAndPort {answers : InitAnswers} {prm : ProxyParameter} {cache : ProxyCache}
    (hhost : cache.host = none) :
    Triple cache.blocks (saveHostAndPort answers prm cache)
      (Saves (Esf.saveHostAndPort answers prm cache.data)) := by
  rw [saveHostAndPort, Esf.saveHostAndPort]
  by_cases hurl : prm.url ≠ []
  · rw [if_pos hurl, if_pos hurl]
    apply triple_strdup
    · intro hfails
      rw [hfails]
      exact Triple.pure (Saves.error (by simp [ProxyCache.blocks, hhost]) rfl)
    · intro hsucceeds block
      rw [hsucceeds, if_pos rfl]
      dsimp only [Option.isSome_some]
      rw [if_pos rfl]
      split_ifs
      · exact Triple.pure (Saves.error (by simp [ProxyCache.blocks, hhost]) rfl)
      · exact Triple.pure (Saves.ok (by simp [ProxyCache.blocks, hhost]) rfl)
  · rw [if_neg hurl, if_neg hurl]
    exact Triple.pure (Saves.ok rfl rfl)

omit [ProxyLengths] in
/-- A string is saved where the cache had none. -/
theorem triple_saveString {text : CString} {succeeds : Bool}
    {store : Option OwnedString → ProxyCache → ProxyCache} {cache : ProxyCache}
    {stored : Esf.ProxyCache} (hnone : store none cache = cache)
    (hsome : ∀ block, (store (some ⟨block, text⟩) cache).blocks = cache.blocks + {block} ∧
      (store (some ⟨block, text⟩) cache).data = stored) :
    Triple cache.blocks (saveString text succeeds store cache)
      (Saves (if text ≠ [] then if succeeds then (.ok (), stored) else (.error .enomem, cache.data)
        else (.ok (), cache.data))) := by
  rw [saveString]
  by_cases htext : text ≠ []
  · rw [if_pos htext, if_pos htext]
    apply triple_strdup
    · intro hfails
      rw [hfails, hnone]
      exact Triple.pure (Saves.error rfl rfl)
    · intro hsucceeds block
      obtain ⟨hblocks, hdata⟩ := hsome block
      rw [hsucceeds]
      exact Triple.pure (Saves.ok hblocks.symm hdata)
  · rw [if_neg htext, if_neg htext]
    exact Triple.pure (Saves.ok rfl rfl)

omit [ProxyLengths] in
theorem triple_saveUsername {answers : InitAnswers} {prm : ProxyParameter} {cache : ProxyCache}
    (husername : cache.username = none) :
    Triple cache.blocks (saveUsername answers prm cache)
      (Saves (Esf.saveUsername answers prm cache.data)) := by
  apply triple_saveString
  · rw [← husername]
  · intro block
    refine ⟨?_, rfl⟩
    simp only [ProxyCache.blocks, husername, Option.map_none, Option.map_some, owned_none,
      owned_some, add_zero]
    exact add_right_comm _ _ _

omit [ProxyLengths] in
theorem triple_savePassword {answers : InitAnswers} {prm : ProxyParameter} {cache : ProxyCache}
    (hpassword : cache.password = none) :
    Triple cache.blocks (savePassword answers prm cache)
      (Saves (Esf.savePassword answers prm cache.data)) := by
  apply triple_saveString
  · rw [← hpassword]
  · intro block
    refine ⟨?_, rfl⟩
    simp only [ProxyCache.blocks, hpassword, Option.map_none, Option.map_some, owned_none,
      owned_some, zero_add]
    abel

omit [ProxyLengths] in
/-- Steps one after the other. An error of the first one is the error of both. -/
theorem triple_andThen {first next : InitStep} {pureFirst pureNext : Esf.InitStep}
    {cache : ProxyCache} (hfirst : Triple cache.blocks (first cache) (Saves (pureFirst cache.data)))
    (hnext : ∀ after : ProxyCache, pureFirst cache.data = (.ok (), after.data) →
      Triple after.blocks (next after) (Saves (pureNext after.data))) :
    Triple cache.blocks (first.andThen next cache)
      (Saves (pureFirst.andThen pureNext cache.data)) := by
  apply hfirst.bind
  rintro ⟨ret, after⟩ rest ⟨rfl, hret, hport, hdata⟩
  dsimp only at hret hport hdata ⊢
  cases ret with
  | ok _ =>
      have hpure : pureFirst cache.data = (.ok (), after.data) :=
        Prod.ext hret.symm (hdata rfl).symm
      rw [andThen_of_ok hpure]
      exact hnext after hpure
  | error error =>
      rw [andThen_of_error (Prod.ext hret.symm rfl)]
      exact Triple.pure (Saves.error rfl hport)

/-- No string of the cache has memory. -/
def ProxyCache.Cleared (cache : ProxyCache) : Prop :=
  cache.host = none ∧ cache.username = none ∧ cache.password = none

omit [ProxyLengths] in
theorem ProxyCache.Cleared.blocks_eq {cache : ProxyCache} (h : cache.Cleared) :
    cache.blocks = 0 := by
  obtain ⟨hhost, husername, hpassword⟩ := h
  rw [ProxyCache.blocks, hhost, husername, hpassword]
  rfl

omit [ProxyLengths] in
theorem ProxyCache.cleared_iff {cache : ProxyCache} : cache.Cleared ↔ cache.data.Cleared := by
  simp [ProxyCache.Cleared, Esf.ProxyCache.Cleared, ProxyCache.data]

/-- Saving the host leaves the other strings. -/
theorem strings_saveHostAndPort {answers : InitAnswers} {prm : ProxyParameter}
    {cache after : Esf.ProxyCache}
    (h : Esf.saveHostAndPort answers prm cache = (.ok (), after)) :
    after.username = cache.username ∧ after.password = cache.password := by
  by_cases hsaves : answers.SavesHostAndPort prm
  · rw [saveHostAndPort_ok hsaves] at h
    obtain rfl := (Prod.mk.inj h).2
    exact ⟨rfl, rfl⟩
  · obtain ⟨error, failed, herror⟩ := saveHostAndPort_error hsaves cache
    rw [herror] at h
    cases h

omit [ProxyLengths] in
theorem password_saveUsername {answers : InitAnswers} {prm : ProxyParameter}
    {cache after : Esf.ProxyCache} (h : Esf.saveUsername answers prm cache = (.ok (), after)) :
    after.password = cache.password := by
  rw [saveUsername_eq] at h
  by_cases hsucceeds : prm.username ≠ [] → answers.strdupUsername = true
  · rw [if_pos hsucceeds] at h
    obtain rfl := (Prod.mk.inj h).2
    rfl
  · rw [if_neg hsucceeds] at h
    cases h

/-- The strings are saved one after the other. -/
theorem triple_saveAll (answers : InitAnswers) (prm : ProxyParameter) {cache : ProxyCache}
    (h : cache.Cleared) :
    Triple cache.blocks
      ((saveHostAndPort answers prm).andThen
        ((saveUsername answers prm).andThen (savePassword answers prm)) cache)
      (Saves ((Esf.saveHostAndPort answers prm).andThen
        ((Esf.saveUsername answers prm).andThen (Esf.savePassword answers prm)) cache.data)) := by
  obtain ⟨hhost, husername, hpassword⟩ := h
  apply triple_andThen (triple_saveHostAndPort hhost)
  intro saved hsaved
  have hstrings := strings_saveHostAndPort hsaved
  simp only [ProxyCache.data, husername, hpassword, Option.map_none, Option.map_eq_none_iff]
    at hstrings
  apply triple_andThen (triple_saveUsername hstrings.1)
  intro named hnamed
  have hlast := password_saveUsername hnamed
  simp only [ProxyCache.data, hstrings.2, Option.map_none, Option.map_eq_none_iff] at hlast
  exact triple_savePassword hlast

theorem triple_loadProxyCache {answers : InitAnswers} {prm : Pointer} {cache : ProxyCache}
    (h : cache.Cleared) (hprm : prm.isSome = answers.malloc) :
    Triple (owned prm) (loadProxyCache answers prm cache) fun result rest ↦
      ∃ own, rest = own + owned prm ∧
        Saves (Esf.loadProxyCache answers cache.data) result own := by
  rw [Esf.loadProxyCache, ← hprm]
  cases prm with
  | none => exact Triple.pure ⟨0, rfl, Saves.error h.blocks_eq.symm rfl⟩
  | some block =>
      rw [Option.isSome_some, if_pos rfl]
      apply Triple.use_bind (by simp)
      cases answers.loadParameter with
      | none => exact Triple.pure ⟨0, (zero_add _).symm, Saves.error h.blocks_eq.symm rfl⟩
      | some prm =>
          have hframe := (triple_saveAll answers prm h).frame {block}
          rw [h.blocks_eq, zero_add] at hframe
          exact hframe

/-- An initialisation of a cleared cache gives back all but the strings that it saves. -/
theorem triple_initProxyCache {answers : InitAnswers} {cache : ProxyCache} (h : cache.Cleared) :
    Triple 0 (evpAgentEsfInitProxyCache answers cache) fun result rest ↦
      (result.1, result.2.data) = Esf.evpAgentEsfInitProxyCache answers cache.data ∧
        rest = result.2.blocks := by
  apply Triple.tryAcquire_bind
  intro prm hprm
  rw [zero_add]
  apply (triple_loadProxyCache h hprm).bind
  rintro ⟨ret, loaded⟩ rest ⟨own, rfl, rfl, hret, hport, hdata⟩
  apply Triple.releaseAny_bind
  rw [Esf.evpAgentEsfInitProxyCache]
  dsimp only at hret hport hdata ⊢
  cases ret with
  | ok _ =>
      rw [show Esf.loadProxyCache answers cache.data = (.ok (), loaded.data) from
        Prod.ext hret.symm (hdata rfl).symm]
      exact Triple.pure ⟨rfl, rfl⟩
  | error error =>
      rw [show Esf.loadProxyCache answers cache.data =
        (.error error, (Esf.loadProxyCache answers cache.data).2) from Prod.ext hret.symm rfl]
      apply (triple_deinitProxyCache loaded).bind
      rintro after rest ⟨hafter, hblocks, rfl⟩
      -- Clearing leaves nothing but the port.
      have hsame : Esf.evpAgentEsfDeinitProxyCache loaded.data =
          Esf.evpAgentEsfDeinitProxyCache (Esf.loadProxyCache answers cache.data).2 := by
        simp only [Esf.evpAgentEsfDeinitProxyCache, ← hport]
        rfl
      exact Triple.pure ⟨Prod.ext rfl (hafter.trans hsame), hblocks.symm⟩

end

end EdgeDeviceCore.Esf.Memory
