import EdgeDeviceCore.Package.Scripts
import EdgeDeviceCore.Semantics.IssuedOperations

/-!
# What the scripts of the package can do

The operations that each script can come to, and what each operation does to the parameters. The
tool is only run for the entries of `postinst`, and only purging the package removes parameters.
-/

open EdgeDeviceCore.Data
open EdgeDeviceCore.Platform
open EdgeDeviceCore.Semantics StoppedRun

namespace EdgeDeviceCore.Package

/-! ## Operations of each script -/

/-- One of these commands, a test, the tool for such a key and value, or a warning of such a key. -/
def Uses (commands : List Command) (tools : List Char → List Char → Prop) : ScriptOp → Prop
  | .command command => command ∈ commands
  | .tool key value => tools key value
  | .warn key => ∃ value, tools key value
  | .test _ => True

/-- A key and a value that `postinst` sets. -/
def IsEntry (key value : List Char) : Prop :=
  ∃ entry ∈ words dbEntries, key = cutField 1 entry ∧ value = cutField 2 entry

abbrev PostinstOp : ScriptOp → Prop :=
  Uses [.elsewhere, .touch certPlaceholder, .touch keyPlaceholder, .createTable] IsEntry

abbrev PrermOp : ScriptOp → Prop :=
  Uses [.elsewhere, .stopService, .disableService] fun _ _ ↦ False

def PostrmOp : Bool → ScriptOp → Prop
  | true => Uses [.elsewhere, .rmData, .rmEvp] fun _ _ ↦ False
  | false => Uses [.elsewhere] fun _ _ ↦ False

section

variable {commands : List Command} {tools : List Char → List Char → Prop}

theorem issues_command {used : Command} (h : used ∈ commands) :
    Issues (Uses commands tools) (command used) :=
  issues_op h

theorem issues_setEntry {key value : List Char} (h : tools key value) :
    Issues (Uses commands tools) (setEntry key value) := by
  have htool : Issues (Uses commands tools) (.issue (.tool key value) .done : Script Bool) :=
    issues_op h
  have hwarn : Issues (Uses commands tools) (.issue (.warn key) .done : Script Unit) :=
    issues_op ⟨value, h⟩
  apply htool.bind
  intro succeeded
  cases succeeded with
  | true => exact issues_pure ()
  | false => exact hwarn

theorem issues_test (condition : Test) : Issues (Uses commands tools) (test condition) :=
  issues_op trivial

/-- Both branches of a condition. -/
theorem issues_ite {condition : Bool} {left right : Script Unit}
    (hleft : Issues (Uses commands tools) left) (hright : Issues (Uses commands tools) right) :
    Issues (Uses commands tools) (if condition then left else right) := by
  cases condition with
  | true => exact hleft
  | false => exact hright

theorem issues_whenHolds {condition : Test} {body : Script Unit}
    (hbody : Issues (Uses commands tools) body) :
    Issues (Uses commands tools) (whenHolds condition body) :=
  (issues_test condition).bind fun _ ↦ issues_ite hbody (issues_pure ())

variable (h : Command.elsewhere ∈ commands)

include h

theorem issues_reloadUdevRules : Issues (Uses commands tools) reloadUdevRules := by
  have helsewhere : Issues (Uses commands tools) elsewhere := issues_command h
  apply (issues_test .udevadmFound).bind
  intro found
  exact issues_ite (helsewhere.bind fun _ ↦ helsewhere.bind fun _ ↦ helsewhere) helsewhere

theorem issues_makeDirectories : Issues (Uses commands tools) makeDirectories := by
  have helsewhere : Issues (Uses commands tools) elsewhere := issues_command h
  refine helsewhere.bind fun _ ↦ helsewhere.bind fun _ ↦ helsewhere.bind fun _ ↦ ?_
  exact helsewhere.bind fun _ ↦ helsewhere.bind fun _ ↦ helsewhere

theorem issues_reloadDaemon : Issues (Uses commands tools) reloadDaemon := by
  have helsewhere : Issues (Uses commands tools) elsewhere := issues_command h
  exact issues_whenHolds (helsewhere.bind fun _ ↦ helsewhere)

theorem issues_setEntries {entries : List (List Char)}
    (hentries : ∀ entry ∈ entries, tools (cutField 1 entry) (cutField 2 entry)) :
    Issues (Uses commands tools) (setEntries entries) := by
  have helsewhere : Issues (Uses commands tools) elsewhere := issues_command h
  induction entries with
  | nil => exact issues_pure ()
  | cons entry entries ih =>
      have hset : Issues (Uses commands tools) (setEntry (cutField 1 entry) (cutField 2 entry)) :=
        issues_setEntry (hentries entry List.mem_cons_self)
      refine helsewhere.bind fun _ ↦ helsewhere.bind fun _ ↦ hset.bind fun _ ↦ ?_
      exact ih fun other hother ↦ hentries other (List.mem_cons_of_mem _ hother)

end

theorem isEntry_cutField {entry : List Char} (h : entry ∈ words dbEntries) :
    IsEntry (cutField 1 entry) (cutField 2 entry) :=
  ⟨entry, h, rfl, rfl⟩

theorem issues_setUpDatabase : Issues PostinstOp setUpDatabase := by
  have helsewhere : Issues PostinstOp elsewhere := issues_command (by decide)
  have htable : Issues PostinstOp (command .createTable) := issues_command (by decide)
  have hentries : Issues PostinstOp (setEntries (words dbEntries)) :=
    issues_setEntries (by decide) fun _ ↦ isEntry_cutField
  apply Issues.bind (issues_test .toolIsFile)
  intro isFile
  refine issues_ite (helsewhere.bind fun _ ↦ htable.bind fun _ ↦ hentries.bind fun _ ↦ ?_) helsewhere
  exact helsewhere.bind fun _ ↦ helsewhere

theorem issues_touchPlaceholders {commands : List Command}
    {tools : List Char → List Char → Prop} (hcert : .touch certPlaceholder ∈ commands)
    (hkey : .touch keyPlaceholder ∈ commands) :
    Issues (Uses commands tools) touchPlaceholders :=
  (issues_command hcert).bind fun _ ↦ issues_command hkey

theorem issues_postinst : Issues PostinstOp postinst := by
  refine (issues_makeDirectories (by decide)).bind fun _ ↦ ?_
  refine (issues_touchPlaceholders (by decide) (by decide)).bind fun _ ↦ ?_
  refine issues_setUpDatabase.bind fun _ ↦ ?_
  exact (issues_reloadUdevRules (by decide)).bind fun _ ↦ issues_reloadDaemon (by decide)

theorem issues_prerm : Issues PrermOp prerm := by
  have helsewhere : Issues PrermOp elsewhere := issues_command (by decide)
  have hstop : Issues PrermOp (command .stopService) := issues_command (by decide)
  have hdisable : Issues PrermOp (command .disableService) := issues_command (by decide)
  refine Issues.bind (issues_whenHolds ?_) fun _ ↦ issues_whenHolds helsewhere
  refine Issues.bind (issues_whenHolds (helsewhere.bind fun _ ↦ hstop)) fun _ ↦ ?_
  exact issues_whenHolds (helsewhere.bind fun _ ↦ hdisable)

theorem issues_purgeData : Issues (PostrmOp true) purgeData := by
  have helsewhere : Issues (PostrmOp true) elsewhere := issues_command (by decide)
  have hdata : Issues (PostrmOp true) (command .rmData) := issues_command (by decide)
  have hevp : Issues (PostrmOp true) (command .rmEvp) := issues_command (by decide)
  refine helsewhere.bind fun _ ↦ hdata.bind fun _ ↦ helsewhere.bind fun _ ↦ hevp.bind fun _ ↦ ?_
  apply issues_whenHolds
  exact helsewhere.bind fun _ ↦ helsewhere.bind fun _ ↦ issues_reloadUdevRules (by decide)

theorem issues_postrm (purge : Bool) : Issues (PostrmOp purge) (postrm purge) := by
  cases purge with
  | false =>
      refine Issues.bind (issues_whenHolds (issues_command (by decide))) fun _ ↦ ?_
      exact (issues_reloadUdevRules (by decide)).bind fun _ ↦ issues_pure ()
  | true =>
      refine Issues.bind (issues_whenHolds (issues_command (by decide))) fun _ ↦ ?_
      exact (issues_reloadUdevRules (by decide)).bind fun _ ↦ issues_purgeData

/-! ## What the operations do to the parameters -/

section Rows

variable {Path : Type} [DecidableEq Path] {db : Path}

/-- The parameters in the database of the package. -/
def Device.rows (db : Path) (device : Device Path) : ℤ → Option Sqlite.Value :=
  Psm.rowOf db device.files

theorem rows_command {command : Command} (h : command ≠ .rmData) (answer : Answer Path)
    (device : Device Path) : (command.run db answer device).2.rows db = device.rows db := by
  cases command with
  | elsewhere => rfl
  | touch name =>
      rw [Command.run]
      split_ifs <;> rfl
  | createTable =>
      rw [Command.run]
      split_ifs
      · rfl
      · apply Psm.rowOf_update
        intro key
        exact Sqlite.File.row_runShell
          (fun tables ↦ Sqlite.lookup_createTable Psm.psmData tables key) _ _
  | stopService =>
      rw [Command.run]
      split_ifs <;> rfl
  | disableService =>
      rw [Command.run]
      split_ifs <;> rfl
  | rmData => exact absurd rfl h
  | rmEvp => rfl

variable [PythonRelease]

/-- What the tool is to store for an entry. -/
def entriesOf (key value : List Char) : List (ℤ × Sqlite.Value) :=
  (Psm.checkKey key).toList.map fun index ↦
    (index, .blob (Psm.ValueArgument.value (String.ofList value)).bytes)

theorem last_entriesOf {key value : List Char} {index : ℤ} (h : Psm.checkKey key = some index) :
    LastWrite.last index (entriesOf key value) =
      some (.blob (Psm.ValueArgument.value (String.ofList value)).bytes) := by
  rw [entriesOf, h, Option.toList_some, List.map_singleton, ← List.nil_append [_],
    LastWrite.last_concat, if_pos rfl]

theorem last_entriesOf_of_ne {key value : List Char} {index : ℤ}
    (h : Psm.checkKey key ≠ some index) : LastWrite.last index (entriesOf key value) = none := by
  rw [entriesOf]
  cases hkey : Psm.checkKey key with
  | none => rfl
  | some other =>
      have hne : other ≠ index := fun heq ↦ h (heq ▸ hkey)
      rw [Option.toList_some, List.map_singleton, ← List.nil_append [_], LastWrite.last_concat,
        if_neg hne, LastWrite.last_nil]

theorem entries_toolArguments (machine : Psm.Machine Path) (key value : List Char)
    (succeeded : Bool) :
    Psm.Invocation.entries db ⟨machine, toolArguments db key value, succeeded⟩ =
      if succeeded then entriesOf key value else [] := by
  cases succeeded with
  | false => rfl
  | true =>
      have hrequest : Psm.checkArguments (toolArguments db key value) =
          some ⟨key, .inl (.utf8 (String.ofList value)), db⟩ := rfl
      rw [Psm.Invocation.entries]
      simp only [hrequest, if_true]
      rw [Psm.Request.entries, entriesOf]
      cases Psm.checkKey key with
      | none => rfl
      | some index => rfl

/-- The tool stores the value or changes nothing, and its status tells which. -/
theorem rows_tool (machine : Psm.Machine Path) (key value : List Char) (files : Psm.Files Path) :
    Psm.rowOf db (Psm.main machine (toolArguments db key value) files).2 =
      LastWrite.writeAll (Psm.rowOf db files)
        (if (Psm.main machine (toolArguments db key value) files).1 then entriesOf key value
          else []) := by
  have hlog : (toolArguments db key value).logFile ≠ some db := nofun
  have hstep : Psm.step files
      ⟨machine, toolArguments db key value, (Psm.main machine (toolArguments db key value) files).1⟩ =
        some (Psm.main machine (toolArguments db key value) files).2 := if_pos rfl
  rw [Psm.rowOf_step hlog hstep, entries_toolArguments]

variable {commands : List Command} {tools : List Char → List Char → Prop}

/-- Operations that leave one parameter as it is. -/
theorem rows_step (hcommands : .rmData ∉ commands) {index : ℤ}
    (htools : ∀ key value, tools key value → Psm.checkKey key ≠ some index) (op : ScriptOp)
    (hop : Uses commands tools op) (answer : Answer Path) (state : ScriptState Path) :
    (step db op answer state).2.device.rows db index = state.device.rows db index := by
  cases op with
  | command command =>
      have hne : command ≠ .rmData := fun heq ↦ hcommands (heq ▸ hop)
      exact congrFun (rows_command hne answer state.device) index
  | test test => rfl
  | warn key =>
      rw [step]
      split_ifs <;> rfl
  | tool key value =>
      rw [step]
      split_ifs with hsucceeds
      · refine (congrFun (rows_tool answer.machine key value state.device.files) index).trans ?_
        rw [LastWrite.writeAll_apply]
        split_ifs
        · rw [last_entriesOf_of_ne (htools key value hop)]
          rfl
        · rfl
      · rfl

end Rows

/-! ## Runs on machines of one kind -/

section Runs

variable {Path : Type} [DecidableEq Path] [PythonRelease] {db : Path}

variable (db) in
/-- A step on a machine of some kind. -/
def stepOn (kind : Answer Path → Answer Path) :
    StoppedRun.Step ScriptOp (Answer Path) (ScriptState Path) ScriptOp.Reply :=
  fun op answer ↦ step db op (kind answer)

variable {kind : Answer Path → Answer Path}

/-- A program keeps what its operations keep. -/
theorem throughout_kept {allowed : ScriptOp → Prop} {script : Script Unit}
    (hscript : Issues allowed script) {kept : ScriptState Path → Prop}
    (hkept : ∀ op, allowed op → ∀ answer state, kept state → kept (step db op answer state).2)
    {state : ScriptState Path} (hstate : kept state) :
    Throughout (stepOn db kind) (fun _ ↦ True) (fun _ later ↦ kept later) script state := by
  have hthroughout : Throughout (stepOn db kind) kept (fun _ later ↦ kept later) script state :=
    hscript.throughout (fun op hop answer later ↦ hkept op hop (kind answer) later) hstate
  exact hthroughout.mono (fun _ _ ↦ trivial) fun _ _ hlater ↦ hlater

theorem throughout_true (script : Script Unit) (state : ScriptState Path) :
    Throughout (stepOn db kind) (fun _ ↦ True) (fun _ _ ↦ True) script state :=
  throughout_kept (issues_true script) (fun _ _ _ _ h ↦ h) trivial

/-- Where a command fails the script ends. -/
theorem throughout_command {used : Command} {post : ScriptState Path → Prop}
    {state : ScriptState Path}
    (h : ∀ answer : Answer Path, (used.run db answer state.device).1 = true →
      post { state with device := (used.run db answer state.device).2 }) :
    Throughout (stepOn db kind) (fun _ ↦ True) (fun _ later ↦ post later) (command used)
      state := by
  refine ⟨trivial, fun answer ↦ ?_⟩
  have hpost := h (kind answer)
  rw [stepOn, step]
  dsimp only
  cases hruns : (used.run db (kind answer) state.device).1 with
  | false => exact trivial
  | true => exact hpost hruns

end Runs

end EdgeDeviceCore.Package
