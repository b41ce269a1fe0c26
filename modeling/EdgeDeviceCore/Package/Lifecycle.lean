import EdgeDeviceCore.Package.Operations

/-!
# The life of an installed package

What happens to a device over any number of installations, upgrades and removals, with what its user
does in between. The scripts are run by `dpkg` and may be stopped anywhere; nothing is assumed of the
order in which they are run. The parameters of the user survive all but a purge, except the four that
`postinst` sets, which are back at their defaults after every configuration.
-/

open EdgeDeviceCore.Data
open EdgeDeviceCore.Platform
open EdgeDeviceCore.Semantics StoppedRun

namespace EdgeDeviceCore.Package

inductive ServiceAction where
  | enable
  | disable
  | start
  | stop
deriving DecidableEq, Repr

inductive Event (Path : Type) where
  /-- The files of the package are put in place. -/
  | unpack
  /-- The files of the package are removed. -/
  | removeFiles
  | postinst (answers : List (Answer Path))
  | prerm (answers : List (Answer Path))
  | postrm (purge : Bool) (answers : List (Answer Path))
  /-- The user runs `update_psm_db.py`. -/
  | invoke (invocation : Psm.Invocation Path)
  | systemctl (action : ServiceAction)
  | boot
  /-- The user puts a file into `/etc/evp`. -/
  | putFile (name : CString) (content : List Char)
  | deleteFile (name : CString)

section

variable {Path : Type} [DecidableEq Path]

def Device.perform (device : Device Path) : ServiceAction → Device Path
  | .enable => { device with enabled := true }
  | .disable => { device with enabled := false }
  | .start => { device with active := true }
  | .stop => { device with active := false }

variable [PythonRelease] (db : Path)

def runScript (script : Script Unit) (answers : List (Answer Path)) (device : Device Path) :
    Ending Unit × ScriptState Path :=
  StoppedRun.run (step db) script answers ⟨device, []⟩

/-- What an event makes of the device. An invocation ends with the status that it ends with. -/
def Device.after (device : Device Path) : Event Path → Option (Device Path)
  | .unpack => some { device with tool := true }
  | .removeFiles => some { device with tool := false }
  | .postinst answers => some (runScript db postinst answers device).2.device
  | .prerm answers => some (runScript db prerm answers device).2.device
  | .postrm purge answers => some (runScript db (postrm purge) answers device).2.device
  | .invoke invocation =>
      (Psm.step device.files invocation).map fun files ↦ { device with files := files }
  | .systemctl action => some (device.perform action)
  | .boot => some { device with active := device.enabled }
  | .putFile name content => some { device with
      evp := device.evp.filter (·.1 ≠ name) ++ [(name, content)] }
  | .deleteFile name => some { device with evp := device.evp.filter (·.1 ≠ name) }

def runEvents (device : Device Path) (events : List (Event Path)) : Option (Device Path) :=
  TransitionRun.run (Device.after db) device events

variable {db}

/-- A script keeps what every operation keeps, wherever it stops. -/
theorem kept_runScript (kept : Device Path → Prop)
    (hkept : ∀ op answer (state : ScriptState Path), kept state.device →
      kept (step db op answer state).2.device)
    {device : Device Path} (hdevice : kept device) (script : Script Unit)
    (answers : List (Answer Path)) : kept (runScript db script answers device).2.device := by
  have hstep : ∀ op, True → ∀ answer ∈ answers, ∀ state : ScriptState Path, kept state.device →
      kept (step db op answer state).2.device :=
    fun op _ answer _ state ↦ hkept op answer state
  exact Issues.run (issues_true script) hstep hdevice

theorem runEvents_cons {device after : Device Path} {event : Event Path}
    {events : List (Event Path)} : runEvents db device (event :: events) = some after ↔
      ∃ middle, device.after db event = some middle ∧ runEvents db middle events = some after := by
  rw [runEvents, ← List.singleton_append, TransitionRun.run_append, TransitionRun.run_singleton]
  rfl

end

/-- Everything that is asked of the machine works. -/
def workingAnswer : Answer ℕ where
  succeeds := true
  holds _ := true
  queries := true
  machine := Psm.workingMachine
  losesDb := false
  losesTool := false
  loses _ := false

/-- A device that the package has not been on. -/
def bareDevice : Device ℕ where
  files := Psm.noFiles
  tool := false
  evp := []
  enabled := false
  active := false

/-! ## Parameters of the user -/

section Parameters

variable {Path : Type} [DecidableEq Path] [PythonRelease] {db : Path}

/-- `postinst` sets the parameter with this index. -/
def IsDefault (index : ℤ) : Prop :=
  ∃ key value, IsEntry key value ∧ Psm.checkKey key = some index

/-- What the user stores. -/
def Event.entries (db : Path) : Event Path → List (ℤ × Sqlite.Value)
  | .invoke invocation => invocation.entries db
  | _ => []

/-- Neither a purge nor an invocation that empties the database for its log. -/
def Event.SparesDb (db : Path) : Event Path → Prop
  | .postrm purge _ => purge = false
  | .invoke invocation => invocation.arguments.logFile ≠ some db
  | _ => True

/-- A script leaves a parameter that it does not set, wherever it stops. -/
theorem rows_runScript {commands : List Command} {tools : List Char → List Char → Prop}
    {script : Script Unit} (hscript : Issues (Uses commands tools) script)
    (hcommands : .rmData ∉ commands) (htools : ∀ key value, tools key value → IsEntry key value)
    {index : ℤ} (hindex : ¬ IsDefault index) (answers : List (Answer Path)) (device : Device Path) :
    (runScript db script answers device).2.device.rows db index = device.rows db index := by
  have hothers : ∀ key value, tools key value → Psm.checkKey key ≠ some index :=
    fun key value htool hkey ↦ hindex ⟨key, value, htools key value htool, hkey⟩
  have hkept : ∀ op, Uses commands tools op → ∀ answer ∈ answers, ∀ state : ScriptState Path,
      state.device.rows db index = device.rows db index →
        (step db op answer state).2.device.rows db index = device.rows db index :=
    fun op hop answer _ state hstate ↦
      (rows_step hcommands hothers op hop answer state).trans hstate
  exact hscript.run hkept rfl

/-- One event leaves a parameter of the user, unless the user stores one. -/
theorem rows_after {index : ℤ} (hindex : ¬ IsDefault index) {device after : Device Path}
    {event : Event Path} (hspares : event.SparesDb db) (hafter : device.after db event = some after) :
    after.rows db index =
      (LastWrite.last index (event.entries db)).or (device.rows db index) := by
  cases event with
  | invoke invocation =>
      obtain ⟨files, hfiles, rfl⟩ := Option.map_eq_some_iff.mp hafter
      refine (congrFun (Psm.rowOf_step hspares hfiles) index).trans ?_
      exact LastWrite.writeAll_apply _ _ _
  | postinst answers =>
      obtain rfl := Option.some.inj hafter
      exact rows_runScript issues_postinst (by decide) (fun _ _ h ↦ h) hindex answers device
  | prerm answers =>
      obtain rfl := Option.some.inj hafter
      exact rows_runScript issues_prerm (by decide) (fun _ _ h ↦ h.elim) hindex answers device
  | postrm purge answers =>
      obtain rfl : purge = false := hspares
      obtain rfl := Option.some.inj hafter
      exact rows_runScript (issues_postrm false) (by decide) (fun _ _ h ↦ h.elim) hindex answers
        device
  | systemctl action =>
      obtain rfl := Option.some.inj hafter
      cases action <;> rfl
  | unpack =>
      obtain rfl := Option.some.inj hafter
      rfl
  | removeFiles =>
      obtain rfl := Option.some.inj hafter
      rfl
  | boot =>
      obtain rfl := Option.some.inj hafter
      rfl
  | putFile name content =>
      obtain rfl := Option.some.inj hafter
      rfl
  | deleteFile name =>
      obtain rfl := Option.some.inj hafter
      rfl

/-- A parameter that `postinst` does not set has the value that the user stored last. -/
theorem rows_runEvents {index : ℤ} (hindex : ¬ IsDefault index) {device after : Device Path}
    {events : List (Event Path)} (hspares : ∀ event ∈ events, event.SparesDb db)
    (hrun : runEvents db device events = some after) :
    after.rows db index =
      (LastWrite.last index (events.flatMap (Event.entries db))).or (device.rows db index) :=
  LastWrite.apply_run (Device.rows db) (Event.entries db) (Event.SparesDb db) index
    (fun _ _ _ hspared hlater ↦ rows_after hindex hspared hlater) hspares hrun

end Parameters

end EdgeDeviceCore.Package
