import EdgeDeviceCore.Ota.Recovery

/-!
# Blue and green

The purpose of the two directories: one holds the version that is current, the other the one that
was current before it, to go back to. Updates that nothing stops do to the files what the plain
description says, one after another.
-/

open EdgeDeviceCore.Semantics

namespace EdgeDeviceCore.Ota

/-- The version that is current, and the one that was current before it. -/
structure BlueGreen where
  current : Option String
  previous : Option String
deriving DecidableEq, Repr

/-- An update makes its version current unless it already is and the update is not forced. -/
def BlueGreen.update (state : BlueGreen) (inputs : UpdateInputs) : BlueGreen :=
  if inputs.forceUpdate = false ∧ state.current = some inputs.coreVersion then state
  else ⟨some inputs.coreVersion, state.current⟩

/-- Both links lead to a directory with the current version, and the other directory has the
previous one. -/
def Keeps (directory : Path) (version : String) (previous : Option String) (fs : FileSystem) :
    Prop :=
  (directory = edcDirA ∨ directory = edcDirB) ∧ fs.link = switchedLinks directory ∧
    fs.node directory = .directory (.complete version) ∧
      ∀ earlier, previous = some earlier →
        fs.node (getTargetDeployment directory) = .directory (.complete earlier)

/-- The files are those of a device with these versions. -/
structure Represents (state : BlueGreen) (fs : FileSystem) : Prop where
  unobstructed : Unobstructed fs
  absent : state.current = none → fs.link .edc = .absent ∧ state.previous = none
  current : ∀ version, state.current = some version →
    ∃ directory, Keeps directory version state.previous fs

/-- A run that nothing stops, if it ends with success. -/
def updateStep (fs : FileSystem) (inputs : UpdateInputs) : Option FileSystem :=
  match runUndisturbed inputs fs with
  | (.finished (), state) => some state.fs
  | _ => none

section Update

variable {state : BlueGreen} {fs : FileSystem} {inputs : UpdateInputs} {directory : Path}
  {version : String}

theorem Represents.serviceable (h : Represents state fs) : Serviceable fs where
  unobstructed := h.unobstructed
  active := by
    cases hcurrent : state.current with
    | none => exact .inl (h.absent hcurrent).1
    | some version =>
        obtain ⟨directory, hdirectory, hlinks, hnode, -⟩ := h.current version hcurrent
        exact .inr ⟨directory, hdirectory, congrFun hlinks .edc, version, hnode⟩
  sensor := by
    intro directory hdirectory
    cases hcurrent : state.current with
    | none => exact nomatch (h.absent hcurrent).1.symm.trans hdirectory
    | some version =>
        obtain ⟨active, -, hlinks, -, -⟩ := h.current version hcurrent
        obtain rfl := LinkNode.link.inj ((congrFun hlinks .edc).symm.trans hdirectory)
        exact .inr (congrFun hlinks .senscord)

theorem updateStep_eq (h : Serviceable fs) (hinputs : inputs.Complete) :
    updateStep fs inputs = some
      (if inputs.Skips fs then fs else fs.installed (inputs.target fs) inputs.coreVersion) := by
  obtain ⟨hended, hfiles⟩ := runUndisturbed_eq hinputs h.currentVersionFile_ne h.target_ne_other
    h.unobstructed.links
  rw [updateStep, ← hfiles]
  rcases hrun : runUndisturbed inputs fs with ⟨ending, after⟩
  rw [hrun] at hended
  obtain rfl : ending = .finished () := hended
  rfl

/-- The version file states the current version. -/
theorem Represents.currentVersionFile (h : Represents state fs) :
    fs.currentVersionFile = state.current.map .stating := by
  cases hcurrent : state.current with
  | none =>
      rw [FileSystem.currentVersionFile, (h.absent hcurrent).1]
      rfl
  | some version =>
      obtain ⟨directory, -, hlinks, hnode, -⟩ := h.current version hcurrent
      rw [FileSystem.currentVersionFile, hlinks, switchedLinks]
      simp only [hnode, Deployment.complete, Option.map_some]

theorem Represents.skips_iff (h : Represents state fs) :
    inputs.Skips fs ↔ inputs.forceUpdate = false ∧ state.current = some inputs.coreVersion := by
  rw [UpdateInputs.Skips, h.currentVersionFile]
  refine and_congr_right fun _ ↦ ?_
  cases state.current <;> simp

theorem Unobstructed.installed (h : Unobstructed fs) (directory : Path) (version : String) :
    Unobstructed (fs.installed directory version) := by
  have hne : Node.directory (.complete version) ≠ .other := nofun
  obtain ⟨-, hnodeA, hnodeB⟩ := h.withNode directory hne
  refine ⟨fun path versionEdc ↦ ?_, hnodeA, hnodeB⟩
  cases path <;> exact nofun

/-- The target is the other directory. -/
theorem Keeps.target_eq {previous : Option String} (h : Keeps directory version previous fs)
    (hinputs : inputs.Complete) : inputs.target fs = getTargetDeployment directory := by
  obtain ⟨hdirectory, hlinks, -, -⟩ := h
  rw [UpdateInputs.target, UpdateInputs.readlink, hlinks, switchedLinks, hinputs.readlinkSucceeds]
  simp only [if_true]
  rcases hdirectory with rfl | rfl <;> decide

theorem getTargetDeployment_twice (h : directory = edcDirA ∨ directory = edcDirB) :
    getTargetDeployment (getTargetDeployment directory) = directory := by
  rcases h with rfl | rfl <;> decide

/-- Installing moves the current version to the place of the previous one. -/
theorem Represents.keeps_installed (h : Represents state fs) (hinputs : inputs.Complete) :
    Keeps (inputs.target fs) inputs.coreVersion state.current
      (fs.installed (inputs.target fs) inputs.coreVersion) := by
  refine ⟨target_cases inputs fs, rfl, withNode_node .., fun earlier hearlier ↦ ?_⟩
  obtain ⟨directory, hkeeps⟩ := h.current earlier hearlier
  obtain ⟨hdirectory, hlinks, hnode, -⟩ := id hkeeps
  rw [hkeeps.target_eq hinputs, getTargetDeployment_twice hdirectory, ← hkeeps.target_eq hinputs,
    ← hnode]
  exact h.serviceable.node_installed hinputs (congrFun hlinks .edc) _

/-- One update. -/
theorem Represents.update (h : Represents state fs) (hinputs : inputs.Complete) :
    ∃ after, updateStep fs inputs = some after ∧ Represents (state.update inputs) after := by
  refine ⟨_, updateStep_eq h.serviceable hinputs, ?_⟩
  rw [BlueGreen.update]
  by_cases hskips : inputs.Skips fs
  · rw [if_pos hskips, if_pos (h.skips_iff.mp hskips)]
    exact h
  · rw [if_neg hskips, if_neg (h.skips_iff.not.mp hskips)]
    refine ⟨h.unobstructed.installed _ _, nofun, ?_⟩
    rintro _ ⟨⟩
    exact ⟨inputs.target fs, h.keeps_installed hinputs⟩

end Update

/-- **Updates that nothing stops keep the last two versions**: the one that is current behind both
links, and the one before it in the other directory. -/
theorem represents_run {state : BlueGreen} {fs : FileSystem} (h : Represents state fs)
    {updates : List UpdateInputs} (hupdates : ∀ inputs ∈ updates, inputs.Complete) :
    ∃ after, TransitionRun.run updateStep fs updates = some after ∧
      Represents (updates.foldl BlueGreen.update state) after :=
  TransitionRun.exists_run_of_simulation h fun _ _ inputs hmem hrelated ↦
    hrelated.update (hupdates inputs hmem)

/-- No deployment yet. -/
def neverInstalled : FileSystem := ⟨noLinks, fun _ ↦ .absent⟩

theorem represents_neverInstalled : Represents ⟨none, none⟩ neverInstalled where
  unobstructed := ⟨fun _ _ ↦ nofun, nofun, nofun⟩
  absent _ := ⟨rfl, rfl⟩
  current := nofun

/-- Version 1.0.0 is kept when 2.0.0 is installed, also if that is tried twice. -/
theorem represents_run_neverInstalled :
    ∃ after, TransitionRun.run updateStep neverInstalled
        [{ updateToTwo with coreVersion := "1.0.0" }, updateToTwo, updateToTwo] = some after ∧
      Represents ⟨some "2.0.0", some "1.0.0"⟩ after := by
  have hcomplete : UpdateInputs.Complete { updateToTwo with coreVersion := "1.0.0" } := by
    constructor <;> decide
  have hupdates : ∀ inputs ∈
      [{ updateToTwo with coreVersion := "1.0.0" }, updateToTwo, updateToTwo],
      inputs.Complete := by
    simp only [List.mem_cons, List.not_mem_nil, or_false]
    rintro inputs (rfl | rfl | rfl)
    · exact hcomplete
    · exact complete_updateToTwo
    · exact complete_updateToTwo
  exact represents_run represents_neverInstalled hupdates

end EdgeDeviceCore.Ota
