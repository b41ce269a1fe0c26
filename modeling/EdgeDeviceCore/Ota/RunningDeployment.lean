import EdgeDeviceCore.Ota.ActiveDeployment

/-!
# The running deployment

The service runs from the directory that `/opt/edc` linked to when the device started, and an
update takes effect with the next boot. The script knows only the link. So a run fills the running
directory where what it reads of the link does not tell which directory is running, as after an
update without a reboot.
-/

open EdgeDeviceCore.Semantics

namespace EdgeDeviceCore.Ota

/-- The directory that `/opt/edc` resolves to. -/
def FileSystem.resolved (fs : FileSystem) : Option Path :=
  match fs.link .edc with
  | .link text => if fs.holds (.isDirectory text) then some text else none
  | _ => none

structure Device where
  fs : FileSystem
  /-- The directory that the running service was started from. -/
  running : Option Path

def Device.booted (fs : FileSystem) : Device := ⟨fs, fs.resolved⟩

inductive DeviceEvent where
  | boot
  | update (run : UpdateRun)

def DeviceEvent.after (event : DeviceEvent) (device : Device) : Device :=
  match event with
  | .boot => .booted device.fs
  | .update run => { device with fs := (run.ended device.fs).fs }

/-- No command is tried on the running directory. -/
def DeviceEvent.Spares (event : DeviceEvent) (device : Device) : Prop :=
  match event with
  | .boot => True
  | .update run => ∀ directory, device.running = some directory →
      ¬ Touches (run.ended device.fs).history directory

def SparesRunning : List DeviceEvent → Device → Prop
  | [], _ => True
  | event :: events, device => event.Spares device ∧ SparesRunning events (event.after device)

/-- A run that comes to its target reads the first directory from the link exactly if the service
runs from that. -/
def DeviceEvent.ReadsRunning (event : DeviceEvent) (device : Device) : Prop :=
  match event with
  | .boot => True
  | .update run => ∀ directory, device.running = some directory →
      Touches (run.ended device.fs).history (run.inputs.target device.fs) →
        (run.inputs.readlink device.fs = edcDirA ↔ directory = edcDirA)

def AllReadRunning : List DeviceEvent → Device → Prop
  | [], _ => True
  | event :: events, device =>
      event.ReadsRunning device ∧ AllReadRunning events (event.after device)

/-! ## Devices -/

/-- `/opt/edc` is absent or links to one of the two directories. -/
def FileSystem.EdcLinked (fs : FileSystem) : Prop :=
  fs.link .edc = .absent ∨ ∃ directory, (directory = edcDirA ∨ directory = edcDirB) ∧
    fs.link .edc = .link directory

/-- The link and the running service know only the two directories. -/
structure Device.Valid (device : Device) : Prop where
  link : device.fs.EdcLinked
  running : ∀ directory, device.running = some directory →
    directory = edcDirA ∨ directory = edcDirB

theorem Device.booted_valid {fs : FileSystem} (h : fs.EdcLinked) : (Device.booted fs).Valid := by
  refine ⟨h, fun running hrunning ↦ ?_⟩
  rw [Device.booted, FileSystem.resolved] at hrunning
  obtain habsent | ⟨directory, hdirectory, hlink⟩ := h
  · rw [habsent] at hrunning
    exact nomatch hrunning
  · rw [hlink] at hrunning
    obtain ⟨-, hsome⟩ := Option.ite_none_right_eq_some.mp hrunning
    exact Option.some.inj hsome ▸ hdirectory

/-- Wherever a run stops, the link is absent or to one of the two directories. -/
theorem FileSystem.EdcLinked.ended {fs : FileSystem} (h : fs.EdcLinked) (run : UpdateRun) :
    (run.ended fs).fs.EdcLinked := by
  obtain ⟨point, hpoint⟩ := reached_runUpdate run.inputs run.outcomes fs
  have hlinks : (run.ended fs).fs.link = point.links := congrArg FileSystem.link hpoint.files
  rw [EdcLinked, hlinks]
  obtain hsame | habsent | ⟨hlink, -⟩ := hpoint.sound.edc_cases
  · rw [hsame]
    exact h
  · exact .inl habsent
  · exact .inr ⟨run.inputs.target fs, target_cases run.inputs fs, hlink⟩

theorem Device.Valid.after {device : Device} (h : device.Valid) (event : DeviceEvent) :
    (event.after device).Valid := by
  cases event with
  | boot => exact booted_valid h.link
  | update run => exact ⟨h.link.ended run, h.running⟩

/-! ## Runs -/

/-- The commands of a run on directories are all on its target. -/
theorem UpdateRun.touches_iff (run : UpdateRun) (fs : FileSystem) (directory : Path) :
    Touches (run.ended fs).history directory ↔
      Touches (run.ended fs).history (run.inputs.target fs) ∧ directory = run.inputs.target fs := by
  obtain ⟨point, hpoint⟩ := reached_runUpdate run.inputs run.outcomes fs
  have htouches := hpoint.touches
  constructor
  · intro h
    obtain ⟨htouched, rfl⟩ := (htouches directory).mp h
    exact ⟨h, rfl⟩
  · rintro ⟨h, rfl⟩
    exact h

/-- One of the two directories is spared as the target if the link is read as it says. -/
theorem target_ne_iff {inputs : UpdateInputs} {fs : FileSystem} {directory : Path}
    (h : directory = edcDirA ∨ directory = edcDirB) :
    inputs.target fs ≠ directory ↔ (inputs.readlink fs = edcDirA ↔ directory = edcDirA) := by
  rw [← target_eq_edcDirB_iff]
  have hne := edcDirB_ne_edcDirA
  obtain rfl | rfl := h <;> obtain htarget | htarget := target_cases inputs fs <;>
    simp [htarget, hne, hne.symm]

theorem DeviceEvent.spares_iff {device : Device} (h : device.Valid) (event : DeviceEvent) :
    event.Spares device ↔ event.ReadsRunning device := by
  cases event with
  | boot => exact Iff.rfl
  | update run =>
      refine forall₂_congr fun directory hrunning ↦ ?_
      rw [run.touches_iff device.fs directory, not_and, ← target_ne_iff (h.running _ hrunning)]
      exact imp_congr_right fun _ ↦ ne_comm

/-- From a boot, the running directory is spared exactly where every run that comes to its target
reads from the link which directory is running. -/
theorem sparesRunning_iff (fs : FileSystem) (events : List DeviceEvent)
    (h : fs.link .edc = .link edcDirA ∨ fs.link .edc = .link edcDirB) :
    SparesRunning events (.booted fs) ↔ AllReadRunning events (.booted fs) := by
  have hvalid : (Device.booted fs).Valid := by
    apply Device.booted_valid
    obtain hlink | hlink := h
    · exact .inr ⟨edcDirA, .inl rfl, hlink⟩
    · exact .inr ⟨edcDirB, .inr rfl, hlink⟩
  generalize Device.booted fs = device at hvalid ⊢
  induction events generalizing device with
  | nil => exact Iff.rfl
  | cons event events ih =>
      exact and_congr (event.spares_iff hvalid) (ih (event.after device) (hvalid.after event))

/-- An update and a reboot. -/
theorem sparesRunning_firstCurrent :
    SparesRunning [.update ⟨updateToTwo, List.replicate 80 .succeeds⟩, .boot]
      (.booted firstCurrent) := by
  apply (sparesRunning_iff firstCurrent _ (.inl rfl)).mpr
  refine ⟨fun directory hrunning _ ↦ iff_of_true (by decide) ?_, trivial, trivial⟩
  exact (Option.some.inj hrunning).symm

/-- A second update without a reboot removes the directory that is running. -/
theorem not_sparesRunning_secondUpdate :
    ¬ SparesRunning [.update ⟨updateToTwo, List.replicate 80 .succeeds⟩,
      .update ⟨{ updateToTwo with coreVersion := "3.0.0" }, List.replicate 80 .succeeds⟩]
      (.booted firstCurrent) := by
  rintro ⟨-, hsecond, -⟩
  apply hsecond edcDirA rfl
  rw [Touches]
  decide

end EdgeDeviceCore.Ota
