import EdgeDeviceCore.Ota.Progress

/-!
# The active deployment

A run fills the directory that `/opt/edc` does not link to, and links it when it is complete. So
the directory that is linked stays complete over any number of interrupted runs, as long as the
script reads the link. If `readlink` fails, the script takes the link for absent and chooses the
first directory, which may be the one that is linked.
-/

open EdgeDeviceCore.Semantics

namespace EdgeDeviceCore.Ota

/-- `/opt/edc` is absent, or links to one of the two directories with a complete deployment. -/
def ActiveComplete (fs : FileSystem) : Prop :=
  fs.link .edc = .absent ∨ ∃ directory, (directory = edcDirA ∨ directory = edcDirB) ∧
    fs.link .edc = .link directory ∧ ∃ version, fs.node directory = .directory (.complete version)

/-- One run, stopped where its outcomes end. -/
structure UpdateRun where
  inputs : UpdateInputs
  outcomes : List Outcome

def UpdateRun.ended (run : UpdateRun) (fs : FileSystem) : ScriptState :=
  (runUpdate run.inputs run.outcomes fs).2

/-- Run the script again and again on what the runs before have left. -/
def runUpdates : List UpdateRun → FileSystem → FileSystem
  | [], fs => fs
  | run :: runs, fs => runUpdates runs (run.ended fs).fs

/-- A run that comes to its target has read the link if that is to the first directory. -/
def UpdateRun.ReadsActive (run : UpdateRun) (fs : FileSystem) : Prop :=
  Touches (run.ended fs).history (run.inputs.target fs) → fs.link .edc = .link edcDirA →
    run.inputs.readlinkSucceeds = true

def AllReadActive : List UpdateRun → FileSystem → Prop
  | [], _ => True
  | run :: runs, fs => run.ReadsActive fs ∧ AllReadActive runs (run.ended fs).fs

/-! ## Targets -/

theorem target_cases (inputs : UpdateInputs) (fs : FileSystem) :
    inputs.target fs = edcDirA ∨ inputs.target fs = edcDirB := by
  rw [UpdateInputs.target, getTargetDeployment]
  split_ifs
  · exact .inr rfl
  · exact .inl rfl
  · exact .inl rfl

theorem edcDirB_ne_edcDirA : edcDirB ≠ edcDirA := by decide

theorem target_eq_edcDirB_iff {inputs : UpdateInputs} {fs : FileSystem} :
    inputs.target fs = edcDirB ↔ inputs.readlink fs = edcDirA := by
  rw [UpdateInputs.target, getTargetDeployment]
  split_ifs with hfirst hsecond
  · exact iff_of_true rfl hfirst
  · exact iff_of_false edcDirB_ne_edcDirA.symm hfirst
  · exact iff_of_false edcDirB_ne_edcDirA.symm hfirst

/-- The target is not the directory that `/opt/edc` links to, if the link is read. -/
theorem target_ne_of_link {inputs : UpdateInputs} {fs : FileSystem} {directory : Path}
    (hdirectory : directory = edcDirA ∨ directory = edcDirB)
    (hlink : fs.link .edc = .link directory)
    (hread : directory = edcDirA → inputs.readlinkSucceeds = true) :
    inputs.target fs ≠ directory := by
  obtain rfl | rfl := hdirectory
  · have hreadlink : inputs.readlink fs = edcDirA := by
      rw [UpdateInputs.readlink, hlink]
      simp only [hread rfl, if_true]
      decide
    rw [target_eq_edcDirB_iff.mpr hreadlink]
    exact edcDirB_ne_edcDirA
  · rw [Ne, target_eq_edcDirB_iff, UpdateInputs.readlink, hlink]
    cases inputs.readlinkSucceeds <;> decide

/-! ## Runs -/

/-- One run leaves the active deployment complete wherever it stops. -/
theorem ActiveComplete.ended {run : UpdateRun} {fs : FileSystem} (h : ActiveComplete fs)
    (hreads : run.ReadsActive fs) : ActiveComplete (run.ended fs).fs := by
  obtain ⟨point, hpoint⟩ := reached_runUpdate run.inputs run.outcomes fs
  have hfiles : (run.ended fs).fs = point.files run.inputs fs := hpoint.files
  rw [hfiles]
  obtain hlinks | habsent | ⟨hlink, hcomplete⟩ := hpoint.sound.edc_cases
  · -- The link is as it was, and only the target has changed.
    obtain habsent | ⟨directory, hdirectory, hlink, version, hcomplete⟩ := h
    · exact .inl ((congrFun hlinks .edc).trans habsent)
    refine .inr ⟨directory, hdirectory, (congrFun hlinks .edc).trans hlink, version, ?_⟩
    rw [← hcomplete]
    cases htouched : point.touched with
    | false =>
        rw [Point.files, hpoint.sound.untouched htouched, Function.update_eq_self]
    | true =>
        have htouches : Touches (run.ended fs).history (run.inputs.target fs) :=
          (hpoint.touches _).mpr ⟨htouched, rfl⟩
        have hne : run.inputs.target fs ≠ directory :=
          target_ne_of_link hdirectory hlink fun hfirst ↦
            hreads htouches (hfirst ▸ hlink)
        exact Function.update_of_ne hne.symm ..
  · exact .inl habsent
  · refine .inr ⟨run.inputs.target fs, target_cases run.inputs fs, hlink,
      run.inputs.coreVersion, ?_⟩
    exact (Function.update_self ..).trans hcomplete

/-- The active deployment stays complete over all runs that read the link. -/
theorem activeComplete_runUpdates (runs : List UpdateRun) (fs : FileSystem)
    (h : ActiveComplete fs) (hreads : AllReadActive runs fs) :
    ActiveComplete (runUpdates runs fs) := by
  induction runs generalizing fs with
  | nil => exact h
  | cons run runs ih => exact ih (run.ended fs).fs (h.ended hreads.1) hreads.2

/-! ## A device that runs its first deployment -/

/-- Version 1.0.0 is current in the first directory. -/
def firstCurrent : FileSystem where
  link := fun
    | .edc => .link edcDirA
    | .senscord => .link (senscordTarget edcDirA)
  node := Function.update (fun _ ↦ .absent) edcDirA (.directory (.complete "1.0.0"))

theorem activeComplete_firstCurrent : ActiveComplete firstCurrent :=
  .inr ⟨edcDirA, .inl rfl, rfl, "1.0.0", rfl⟩

/-- An update that runs to its end. -/
theorem activeComplete_runUpdates_firstCurrent :
    ActiveComplete (runUpdates [⟨updateToTwo, List.replicate 80 .succeeds⟩] firstCurrent) :=
  activeComplete_runUpdates [⟨updateToTwo, List.replicate 80 .succeeds⟩] firstCurrent
    activeComplete_firstCurrent ⟨fun _ _ ↦ rfl, trivial⟩

/-- An update whose `readlink` fails, and which is killed when it has removed its target. -/
def unreadUpdate : UpdateRun :=
  ⟨{ updateToTwo with readlinkSucceeds := false }, List.replicate 20 .succeeds⟩

theorem not_activeComplete_unreadUpdate :
    ActiveComplete firstCurrent ∧ ¬ ActiveComplete (runUpdates [unreadUpdate] firstCurrent) := by
  have hlink : (runUpdates [unreadUpdate] firstCurrent).link .edc = .link edcDirA := by decide
  have hnode : (runUpdates [unreadUpdate] firstCurrent).node edcDirA = .absent := by decide
  refine ⟨activeComplete_firstCurrent, ?_⟩
  rintro (habsent | ⟨directory, -, hdirectory, version, hcomplete⟩)
  · exact nomatch hlink.symm.trans habsent
  · obtain rfl : edcDirA = directory := LinkNode.link.inj (hlink.symm.trans hdirectory)
    exact nomatch hnode.symm.trans hcomplete

end EdgeDeviceCore.Ota
