import EdgeDeviceCore.Package.Lifecycle

/-!
# What a configuration makes of the parameters

`postinst` stores four parameters, one invocation of the tool for each. It warns of an invocation
that fails and goes on, so its status says nothing about the parameters; its warnings do. A value
that the user has stored for one of the four is lost with every configuration.
-/

open EdgeDeviceCore.Data
open EdgeDeviceCore.Platform
open EdgeDeviceCore.Semantics StoppedRun

namespace EdgeDeviceCore.Package

/-! ## Defaults -/

/-- A parameter that `postinst` sets, with its key as the script spells it. -/
structure Default where
  key : List Char
  index : ℤ
  value : List Char

def defaults : List Default :=
  [⟨"PlStorageDataEvpHubURL".toList, 30, "127.0.0.1".toList⟩,
    ⟨"PlStorageDataEvpHubPort".toList, 31, "1883".toList⟩,
    ⟨"PlStorageDataEvpIotPlatform".toList, 32, "TB".toList⟩,
    ⟨"PlStorageDataEvpTls".toList, 35, "1".toList⟩]

def Default.stored (entry : Default) : Sqlite.Value :=
  .blob (Psm.ValueArgument.value (String.ofList entry.value)).bytes

/-- The loop of `postinst` goes over the defaults. -/
theorem fields_dbEntries :
    (words dbEntries).map (fun entry ↦ (cutField 1 entry, cutField 2 entry)) =
      defaults.map fun entry ↦ (entry.key, entry.value) := by
  unfold dbEntries
  decide +kernel

theorem nodup_defaults : (defaults.map Default.index).Nodup := by
  decide

theorem isEntry_iff {key value : List Char} :
    IsEntry key value ↔ ∃ entry ∈ defaults, entry.key = key ∧ entry.value = value := by
  have hmem : IsEntry key value ↔
      (key, value) ∈ (words dbEntries).map fun entry ↦ (cutField 1 entry, cutField 2 entry) := by
    rw [List.mem_map, IsEntry]
    constructor
    · rintro ⟨entry, hentry, rfl, rfl⟩
      exact ⟨entry, hentry, rfl⟩
    · rintro ⟨entry, hentry, hfields⟩
      obtain ⟨rfl, rfl⟩ := Prod.mk.inj hfields
      exact ⟨entry, hentry, rfl, rfl⟩
  rw [hmem, fields_dbEntries, List.mem_map]
  simp only [Prod.mk.injEq]

section

variable [PythonRelease]

/-- The tool takes each key for the parameter with that index. -/
theorem checkKey_default {entry : Default} (h : entry ∈ defaults) :
    Psm.checkKey entry.key = some entry.index := by
  have hurl : Psm.NamesKey "PlStorageDataEvpHubURL".toList 30 := .inl (by decide +kernel)
  have hport : Psm.NamesKey "PlStorageDataEvpHubPort".toList 31 := .inl (by decide +kernel)
  have hplatform : Psm.NamesKey "PlStorageDataEvpIotPlatform".toList 32 :=
    .inl (by decide +kernel)
  have htls : Psm.NamesKey "PlStorageDataEvpTls".toList 35 := .inl (by decide +kernel)
  simp only [defaults, List.mem_cons, List.not_mem_nil, or_false] at h
  rcases h with rfl | rfl | rfl | rfl
  · exact Psm.checkKey_of_namesKey hurl
  · exact Psm.checkKey_of_namesKey hport
  · exact Psm.checkKey_of_namesKey hplatform
  · exact Psm.checkKey_of_namesKey htls

theorem isDefault_iff {index : ℤ} :
    IsDefault index ↔ ∃ entry ∈ defaults, entry.index = index := by
  constructor
  · rintro ⟨key, value, hentry, hkey⟩
    obtain ⟨entry, hmem, rfl, rfl⟩ := isEntry_iff.mp hentry
    exact ⟨entry, hmem, Option.some.inj ((checkKey_default hmem).symm.trans hkey)⟩
  · rintro ⟨entry, hmem, rfl⟩
    exact ⟨entry.key, entry.value, isEntry_iff.mpr ⟨entry, hmem, rfl, rfl⟩, checkKey_default hmem⟩

end

/-! ## One default in a run of the script -/

section Run

variable {Path : Type} [DecidableEq Path] {db : Path}

/-- What a run shows of one default. -/
structure Standing where
  value : Option Sqlite.Value
  warned : Bool
  tool : Bool

def Default.standing (entry : Default) (db : Path) (state : ScriptState Path) : Standing where
  value := state.device.rows db entry.index
  warned := state.warnings.contains entry.key
  tool := state.device.tool

/-- The value of a default after the configuration, by its former value. -/
def Default.Settled (entry : Default) (former : Option Sqlite.Value) (standing : Standing) : Prop :=
  standing.value = if standing.tool && !standing.warned then some entry.stored else former

/-- A run may stop with the one value or the other. -/
def Default.Either (entry : Default) (former : Option Sqlite.Value) (standing : Standing) : Prop :=
  standing.value = former ∨ standing.value = some entry.stored

theorem Default.Settled.either {entry : Default} {former : Option Sqlite.Value}
    {standing : Standing} (h : entry.Settled former standing) : entry.Either former standing := by
  rw [Settled] at h
  split_ifs at h
  · exact .inr h
  · exact .inl h

variable [PythonRelease]

omit [PythonRelease] in
theorem tool_command {command : Command} (h : command ≠ .rmData) (answer : Answer Path)
    (device : Device Path) : (command.run db answer device).2.tool = device.tool := by
  cases command with
  | rmData => exact absurd rfl h
  | elsewhere | rmEvp => rfl
  | touch | createTable | stopService | disableService =>
      rw [Command.run]
      split_ifs <;> rfl

/-- The tool is told to set another parameter. -/
def Default.Others (entry : Default) (key _value : List Char) : Prop :=
  Psm.checkKey key ≠ some entry.index

variable {entry : Default} (hentry : entry ∈ defaults)

include hentry

theorem standing_step {commands : List Command} (hcommands : .rmData ∉ commands) (op : ScriptOp)
    (hop : Uses commands entry.Others op) (answer : Answer Path) (state : ScriptState Path) :
    entry.standing db (step db op answer state).2 = entry.standing db state := by
  have hvalue : (step db op answer state).2.device.rows db entry.index =
      state.device.rows db entry.index :=
    rows_step hcommands (fun _ _ h ↦ h) op hop answer state
  have hwarned : (step db op answer state).2.warnings.contains entry.key =
      state.warnings.contains entry.key := by
    cases op with
    | command command => rfl
    | test test => rfl
    | tool key value =>
        rw [step]
        split_ifs <;> rfl
    | warn key =>
        obtain ⟨value, hother⟩ := hop
        have hne : entry.key ≠ key := fun heq ↦ hother (heq ▸ checkKey_default hentry)
        rw [step]
        split_ifs
        · simp [hne]
        · rfl
  have htool : (step db op answer state).2.device.tool = state.device.tool := by
    cases op with
    | command command => exact tool_command (fun heq ↦ hcommands (heq ▸ hop)) answer state.device
    | test test => rfl
    | tool key value =>
        rw [step]
        split_ifs <;> rfl
    | warn key =>
        rw [step]
        split_ifs <;> rfl
  simp only [Default.standing, hvalue, hwarned, htool]

section Others

variable {Result Next : Type} {commands : List Command}
  {program : AtomicProgram ScriptOp ScriptOp.Reply Result} {next : Result → Script Next}
  {former : Option Sqlite.Value} {state : ScriptState Path}

/-- The standing of a default in a program that does not come to it. -/
theorem throughout_standing (hprogram : Issues (Uses commands entry.Others) program)
    (hcommands : .rmData ∉ commands) :
    Throughout (step db) (fun later ↦ entry.standing db later = entry.standing db state)
      (fun _ later ↦ entry.standing db later = entry.standing db state) program state := by
  have hkept : ∀ op, Uses commands entry.Others op → ∀ answer (later : ScriptState Path),
      entry.standing db later = entry.standing db state →
        entry.standing db (step db op answer later).2 = entry.standing db state := by
    intro op hop answer later hlater
    rw [standing_step hentry hcommands op hop answer later, hlater]
  exact hprogram.throughout hkept rfl

/-- Such a program is followed by the next from the same standing. -/
theorem throughout_others {post : Next → ScriptState Path → Prop} {standing : Standing}
    (hprogram : Issues (Uses commands entry.Others) program) (hcommands : .rmData ∉ commands)
    (heither : entry.Either former standing) (hstate : entry.standing db state = standing)
    (hnext : ∀ result later, entry.standing db later = standing →
      Throughout (step db) (fun later ↦ entry.Either former (entry.standing db later)) post
        (next result) later) :
    Throughout (step db) (fun later ↦ entry.Either former (entry.standing db later)) post
      (program >>= next) state := by
  subst hstate
  have hstanding : Throughout (step db)
      (fun later ↦ entry.standing db later = entry.standing db state)
      (fun _ later ↦ entry.standing db later = entry.standing db state) program state :=
    throughout_standing hentry hprogram hcommands
  refine Throughout.bind (hstanding.mono (fun later hlater ↦ ?_) fun _ _ hpost ↦ hpost) hnext
  rwa [hlater]

/-- A default that is settled stays so. -/
theorem throughout_settled (hprogram : Issues (Uses commands entry.Others) program)
    (hcommands : .rmData ∉ commands) (hstate : entry.Settled former (entry.standing db state)) :
    Throughout (step db) (fun later ↦ entry.Either former (entry.standing db later))
      (fun _ later ↦ entry.Settled former (entry.standing db later)) program state := by
  apply (throughout_standing hentry hprogram hcommands).mono
  · intro later hlater
    rw [hlater]
    exact hstate.either
  · intro _ later hlater
    rwa [hlater]

end Others

/-- The tool stores the default, or the parameters stay. -/
theorem throughout_tool {former : Option Sqlite.Value} {state : ScriptState Path}
    (hstate : entry.standing db state = ⟨former, false, true⟩) :
    Throughout (step db) (fun later ↦ entry.Either former (entry.standing db later))
      (fun succeeded later ↦ entry.standing db later =
        ⟨if succeeded then some entry.stored else former, false, true⟩)
      (.issue (.tool entry.key entry.value) .done : Script Bool) state := by
  obtain ⟨hvalue, hwarned, htool⟩ := Standing.mk.inj hstate
  refine ⟨.inl (congrArg Standing.value hstate), fun answer ↦ ?_⟩
  rw [step]
  split_ifs with hsucceeds
  · have hrow : Psm.rowOf db (Psm.main answer.machine (toolArguments db entry.key entry.value)
          state.device.files).2 entry.index =
        if (Psm.main answer.machine (toolArguments db entry.key entry.value)
          state.device.files).1 then some entry.stored else former := by
      rw [rows_tool, LastWrite.writeAll_apply]
      split_ifs
      · rw [last_entriesOf (checkKey_default hentry)]
        rfl
      · exact hvalue
    change Standing.mk .. = _
    rw [Standing.mk.injEq]
    exact ⟨hrow, hwarned, htool⟩
  · exact hstate

/-- A default is stored, or there is a warning of its key. -/
theorem throughout_setEntry {former : Option Sqlite.Value} {state : ScriptState Path}
    (hstate : entry.standing db state = ⟨former, false, true⟩) :
    Throughout (step db) (fun later ↦ entry.Either former (entry.standing db later))
      (fun _ later ↦ entry.Settled former (entry.standing db later))
      (setEntry entry.key entry.value) state := by
  apply (throughout_tool hentry hstate).bind
  intro succeeded middle hmiddle
  cases succeeded with
  | true =>
      change entry.Settled former (entry.standing db middle)
      rw [hmiddle]
      rfl
  | false =>
      obtain ⟨hvalue, -, -⟩ := Standing.mk.inj hmiddle
      refine ⟨.inl hvalue, fun answer ↦ ?_⟩
      rw [step]
      split_ifs with hprinted
      · have hwarned : (middle.warnings ++ [entry.key]).contains entry.key = true := by simp
        change _ = if middle.device.tool && !(middle.warnings ++ [entry.key]).contains entry.key
          then _ else _
        rw [hwarned, Bool.not_true, Bool.and_false]
        exact hvalue
      · exact .inl hvalue

omit hentry in
theorem others_of_ne {other : Default} (hother : other ∈ defaults)
    (hne : other.index ≠ entry.index) (value : List Char) : entry.Others other.key value := by
  rw [Default.Others, checkKey_default hother]
  exact fun heq ↦ hne (Option.some.inj heq)

/-- The loop comes to the default once, and leaves it alone before and after. -/
theorem throughout_setEntries {entries : List (List Char)} {list : List Default}
    (hfields : entries.map (fun text ↦ (cutField 1 text, cutField 2 text)) =
      list.map fun other ↦ (other.key, other.value))
    (hlist : list ⊆ defaults) (hnodup : (list.map Default.index).Nodup) (hmem : entry ∈ list)
    {former : Option Sqlite.Value} {state : ScriptState Path}
    (hstate : entry.standing db state = ⟨former, false, true⟩) :
    Throughout (step db) (fun later ↦ entry.Either former (entry.standing db later))
      (fun _ later ↦ entry.Settled former (entry.standing db later)) (setEntries entries) state := by
  induction list generalizing entries state with
  | nil => exact absurd hmem List.not_mem_nil
  | cons head list ih =>
      obtain ⟨text, texts, rfl, htext, htexts⟩ := List.map_eq_cons_iff.mp hfields
      obtain ⟨hkey, hvalue⟩ := Prod.mk.inj htext
      rw [List.map_cons, List.nodup_cons] at hnodup
      have helsewhere : Issues (Uses [.elsewhere] entry.Others) elsewhere :=
        issues_command (by decide)
      have heither : entry.Either former ⟨former, false, true⟩ := .inl rfl
      apply throughout_others hentry helsewhere (by decide) heither hstate
      intro _ first hfirst
      apply throughout_others hentry helsewhere (by decide) heither hfirst
      intro _ second hsecond
      rw [hkey, hvalue]
      rcases List.mem_cons.mp hmem with rfl | hlater
      · -- The entries that follow are for other parameters.
        have hothers : ∀ other ∈ texts, entry.Others (cutField 1 other) (cutField 2 other) := by
          intro other hother
          have hfield : (cutField 1 other, cutField 2 other) ∈
              list.map fun other ↦ (other.key, other.value) :=
            htexts ▸ List.mem_map_of_mem hother
          obtain ⟨default, hdefault, heq⟩ := List.mem_map.mp hfield
          obtain ⟨hname, -⟩ := Prod.mk.inj heq
          rw [← hname]
          apply others_of_ne (hlist (List.mem_cons_of_mem _ hdefault))
          exact fun hindex ↦ hnodup.1 (hindex ▸ List.mem_map_of_mem hdefault)
        have hrest : Issues (Uses [.elsewhere] entry.Others) (setEntries texts) :=
          issues_setEntries (by decide) hothers
        apply (throughout_setEntry hentry hsecond).bind
        intro _ third hthird
        exact throughout_settled hentry hrest (by decide) hthird
      · have hother : entry.Others head.key head.value := by
          apply others_of_ne (hlist List.mem_cons_self)
          exact fun hindex ↦ hnodup.1 (hindex ▸ List.mem_map_of_mem hlater)
        have hset : Issues (Uses [.elsewhere] entry.Others) (setEntry head.key head.value) :=
          issues_setEntry hother
        apply throughout_others hentry hset (by decide) heither hsecond
        intro _ third hthird
        exact ih htexts (fun _ h ↦ hlist (List.mem_cons_of_mem _ h)) hnodup.2 hlater hthird

theorem throughout_setUpDatabase {former : Option Sqlite.Value} {tool : Bool}
    {state : ScriptState Path} (hstate : entry.standing db state = ⟨former, false, tool⟩) :
    Throughout (step db) (fun later ↦ entry.Either former (entry.standing db later))
      (fun _ later ↦ entry.Settled former (entry.standing db later)) setUpDatabase state := by
  have htool : state.device.tool = tool := congrArg Standing.tool hstate
  have helsewhere : Issues (Uses [.elsewhere, .createTable] entry.Others) elsewhere :=
    issues_command (by decide)
  have htable : Issues (Uses [.elsewhere, .createTable] entry.Others) (command .createTable) :=
    issues_command (by decide)
  refine ⟨.inl (congrArg Standing.value hstate), fun answer ↦ ?_⟩
  change Throughout _ _ _ (if state.device.tool then _ else elsewhere : Script Unit) state
  rw [htool]
  cases tool with
  | false =>
      apply throughout_settled hentry helsewhere (by decide)
      rw [hstate]
      rfl
  | true =>
      have heither : entry.Either former ⟨former, false, true⟩ := .inl rfl
      apply throughout_others hentry helsewhere (by decide) heither hstate
      intro _ first hfirst
      apply throughout_others hentry htable (by decide) heither hfirst
      intro _ second hsecond
      have hset := throughout_setEntries hentry fields_dbEntries (fun _ h ↦ h) nodup_defaults hentry
        hsecond
      apply hset.bind
      intro _ third hthird
      exact throughout_settled hentry (helsewhere.bind fun _ ↦ helsewhere) (by decide) hthird

/-- A default over the whole of `postinst`. -/
theorem throughout_postinst (device : Device Path) :
    Throughout (step db)
      (fun later ↦ entry.Either (device.rows db entry.index) (entry.standing db later))
      (fun _ later ↦ entry.Settled (device.rows db entry.index) (entry.standing db later))
      postinst ⟨device, []⟩ := by
  have hstart : entry.standing db ⟨device, []⟩ =
      ⟨device.rows db entry.index, false, device.tool⟩ := rfl
  have heither : entry.Either (device.rows db entry.index)
      ⟨device.rows db entry.index, false, device.tool⟩ := .inl rfl
  have hdirectories : Issues (Uses [.elsewhere] entry.Others) makeDirectories :=
    issues_makeDirectories (by decide)
  have hplaceholders : Issues
      (Uses [.touch certPlaceholder, .touch keyPlaceholder] entry.Others) touchPlaceholders :=
    issues_touchPlaceholders (by decide) (by decide)
  have hreload : Issues (Uses [.elsewhere] entry.Others) (reloadUdevRules >>= fun _ ↦ reloadDaemon) :=
    (issues_reloadUdevRules (by decide)).bind fun _ ↦ issues_reloadDaemon (by decide)
  apply throughout_others hentry hdirectories (by decide) heither hstart
  intro _ first hfirst
  apply throughout_others hentry hplaceholders (by decide) heither hfirst
  intro _ second hsecond
  apply (throughout_setUpDatabase hentry hsecond).bind
  intro _ third hthird
  exact throughout_settled hentry hreload (by decide) hthird

/-! ## Many installations -/

end Run

section

attribute [local instance] Psm.asciiRelease

/-- A first installation on which everything works. -/
def firstConfiguration : Ending Unit × ScriptState ℕ :=
  runScript 0 postinst (List.replicate 40 workingAnswer) { bareDevice with tool := true }

/-- The run finished without a warning, and the tool is in place. -/
def configuredCleanly : Ending Unit × ScriptState ℕ → Bool
  | (.finished (), ⟨device, []⟩) => device.tool
  | _ => false

theorem firstConfiguration_finished : ∃ device : Device ℕ,
    firstConfiguration = (.finished (), ⟨device, []⟩) ∧ device.tool = true := by
  have hclean : configuredCleanly firstConfiguration = true := by
    unfold firstConfiguration postinst setUpDatabase dbEntries
    decide +kernel
  unfold configuredCleanly at hclean
  split at hclean
  · rename_i device heq
    exact ⟨device, heq, hclean⟩
  · exact absurd hclean Bool.false_ne_true

end

end EdgeDeviceCore.Package
