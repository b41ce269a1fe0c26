import EdgeDeviceCore.Ota.ActiveDeployment
import EdgeDeviceCore.Ota.CompleteRun
import EdgeDeviceCore.Semantics.IssuedOperations
import EdgeDeviceCore.Semantics.TransitionRun

/-!
# Updates after interrupted updates

Whatever earlier runs were stopped by, a run that nothing stops comes to its end, and what was
current before it is kept. It makes the device complete again, with one exception: between the two
links the version file of the new deployment is already in place, so a run that was stopped there
is not repaired by another one of the same version unless that is forced.
-/

open EdgeDeviceCore.Semantics

namespace EdgeDeviceCore.Ota

/-! ## What interrupted runs leave -/

/-- Nothing stands where the script makes its directories and links but these. -/
structure Unobstructed (fs : FileSystem) : Prop where
  links : ∀ path versionEdc, fs.link path ≠ .other versionEdc
  nodeA : fs.node edcDirA ≠ .other
  nodeB : fs.node edcDirB ≠ .other

def ScriptState.Unobstructed (state : ScriptState) : Prop := Ota.Unobstructed state.fs

/-- A command that fails leaves a directory or nothing. -/
def Outcome.LeavesDirectory : Outcome → Prop
  | .succeeds => True
  | .fails left => left ≠ .other

theorem effect_ne_other {targetCommand : TargetCommand} {node left : Node}
    (h : targetCommand.effect node = some left) : left ≠ .other := by
  rintro rfl
  cases targetCommand <;> cases node <;> cases h

theorem linkEffect_ne_other {linkCommand : LinkCommand} {links made : LinkPath → LinkNode}
    (hlinks : ∀ path versionEdc, links path ≠ .other versionEdc)
    (h : linkCommand.effect links = some made) (path : LinkPath) (versionEdc : Option VersionFile) :
    made path ≠ .other versionEdc := by
  have hupdate {changed : LinkPath} {node : LinkNode} (hnode : node ≠ .other versionEdc) :
      Function.update links changed node path ≠ .other versionEdc := by
    rw [Function.update_apply]
    split_ifs
    · exact hnode
    · exact hlinks path versionEdc
  cases linkCommand with
  | rm removed =>
      rw [LinkCommand.effect] at h
      cases hlink : links removed with
      | link text =>
          rw [hlink] at h
          obtain rfl := Option.some.inj h
          exact hupdate fun heq ↦ by cases heq
      | absent =>
          rw [hlink] at h
          cases h
      | other versionEdc =>
          rw [hlink] at h
          cases h
  | ln text created =>
      rw [LinkCommand.effect] at h
      cases hlink : links created with
      | absent =>
          rw [hlink] at h
          obtain rfl := Option.some.inj h
          exact hupdate fun heq ↦ by cases heq
      | link text =>
          rw [hlink] at h
          cases h
      | other versionEdc =>
          rw [hlink] at h
          cases h

theorem Unobstructed.withNode {fs : FileSystem} (h : Unobstructed fs) (directory : Path)
    {node : Node} (hnode : node ≠ .other) :
    Unobstructed { fs with node := Function.update fs.node directory node } := by
  have hupdate {path : Path} (hpath : fs.node path ≠ .other) :
      Function.update fs.node directory node path ≠ .other := by
    rw [Function.update_apply]
    split_ifs
    · exact hnode
    · exact hpath
  exact ⟨h.links, hupdate h.nodeA, hupdate h.nodeB⟩

theorem Unobstructed.perform {command : Command} {outcome : Outcome} {state : ScriptState}
    (h : Unobstructed state.fs) (houtcome : outcome.LeavesDirectory) :
    Unobstructed (state.perform command outcome).2.fs := by
  cases outcome with
  | fails left =>
      rw [ScriptState.perform]
      cases command with
      | target directory targetCommand => exact h.withNode directory houtcome
      | log => exact h
      | elsewhere => exact h
      | link linkCommand => exact h
  | succeeds =>
      rw [ScriptState.perform]
      cases heffect : command.effect state.fs with
      | none => exact h
      | some fs =>
          cases command with
          | log =>
              obtain rfl := Option.some.inj heffect
              exact h
          | elsewhere =>
              obtain rfl := Option.some.inj heffect
              exact h
          | target directory targetCommand =>
              obtain ⟨node, hnode, rfl⟩ := Option.map_eq_some_iff.mp heffect
              exact h.withNode directory (effect_ne_other hnode)
          | link linkCommand =>
              obtain ⟨links, hlinks, rfl⟩ := Option.map_eq_some_iff.mp heffect
              exact ⟨linkEffect_ne_other h.links hlinks, h.nodeA, h.nodeB⟩

theorem Unobstructed.step {inputs : UpdateInputs} {op : ScriptOp} {outcome : Outcome}
    {state : ScriptState} (h : Unobstructed state.fs) (houtcome : outcome.LeavesDirectory) :
    Unobstructed (Ota.step inputs op outcome state).2.fs := by
  cases op with
  | command command => exact h.perform houtcome
  | attempt command => exact h.perform houtcome
  | errorExit message => exact h
  | test test => exact h
  | readlink => exact h
  | grepCurrentVersion =>
      cases outcome with
      | fails left => exact h
      | succeeds =>
          rw [Ota.step]
          cases state.fs.currentVersionFile with
          | none => exact h
          | some file => cases file <;> exact h

theorem Unobstructed.ended {run : UpdateRun} {fs : FileSystem} (h : Unobstructed fs)
    (hleaves : ∀ outcome ∈ run.outcomes, outcome.LeavesDirectory) :
    Unobstructed (run.ended fs).fs := by
  have hstep : ∀ op, True → ∀ outcome ∈ run.outcomes, ∀ state, ScriptState.Unobstructed state →
      ScriptState.Unobstructed (Ota.step run.inputs op outcome state).2 :=
    fun _ _ outcome hmem _ hstate ↦ Unobstructed.step hstate (hleaves outcome hmem)
  exact (StoppedRun.issues_true (performUpdate run.inputs)).run hstep h

/-- Where there is a current deployment, `/opt/senscord` is missing or leads to it. -/
def SensorFollows (fs : FileSystem) : Prop :=
  ∀ directory, fs.link .edc = .link directory →
    fs.link .senscord = .absent ∨ fs.link .senscord = .link (senscordTarget directory)

theorem SensorFollows.ended {fs : FileSystem} (h : SensorFollows fs) (run : UpdateRun) :
    SensorFollows (run.ended fs).fs := by
  obtain ⟨point, hpoint⟩ := reached_runUpdate run.inputs run.outcomes fs
  have hlinks : (run.ended fs).fs.link = point.links := by
    rw [UpdateRun.ended, hpoint.files]
    rfl
  rw [SensorFollows, hlinks]
  intro directory hdirectory
  rcases hlast : point.last with _ | path | ⟨text, _ | _⟩
  · rw [hpoint.sound.unlinked hlast] at hdirectory ⊢
    exact h directory hdirectory
  · have habsent := (hpoint.sound.switched _ hlast).2.2
    exact nomatch habsent.symm.trans hdirectory
  · exact .inl (hpoint.sound.switched _ hlast).2
  · obtain ⟨hedc, hsenscord⟩ := hpoint.sound.switched _ hlast
    obtain rfl := LinkNode.link.inj (hedc.symm.trans hdirectory)
    exact .inr hsenscord

/-- What the script keeps of a device, wherever it is stopped. -/
structure Serviceable (fs : FileSystem) : Prop where
  active : ActiveComplete fs
  unobstructed : Unobstructed fs
  sensor : SensorFollows fs

theorem serviceable_runUpdates (runs : List UpdateRun) (fs : FileSystem) (h : Serviceable fs)
    (hreads : AllReadActive runs fs)
    (hleaves : ∀ run ∈ runs, ∀ outcome ∈ run.outcomes, outcome.LeavesDirectory) :
    Serviceable (runUpdates runs fs) := by
  induction runs generalizing fs with
  | nil => exact h
  | cons run runs ih =>
      have hended : Serviceable (run.ended fs).fs :=
        ⟨h.active.ended hreads.1, h.unobstructed.ended (hleaves run List.mem_cons_self),
          h.sensor.ended run⟩
      exact ih (run.ended fs).fs hended hreads.2
        fun other hother ↦ hleaves other (List.mem_cons_of_mem _ hother)

/-! ## One more run -/

/-- Both links lead to a complete deployment of one version. -/
def Updated (version : String) (fs : FileSystem) : Prop :=
  ∃ directory, (directory = edcDirA ∨ directory = edcDirB) ∧ fs.link = switchedLinks directory ∧
    fs.node directory = .directory (.complete version)

section Serviceable

variable {fs : FileSystem} {inputs : UpdateInputs}

/-- The version file that is read is that of the current deployment. -/
theorem Serviceable.currentVersionFile (h : Serviceable fs) :
    fs.currentVersionFile = none ∨ ∃ directory version,
      (directory = edcDirA ∨ directory = edcDirB) ∧ fs.link .edc = .link directory ∧
        fs.node directory = .directory (.complete version) ∧
          fs.currentVersionFile = some (.stating version) := by
  rcases h.active with habsent | ⟨directory, hdirectory, hlink, version, hcomplete⟩
  · left
    rw [FileSystem.currentVersionFile, habsent]
  · refine .inr ⟨directory, version, hdirectory, hlink, hcomplete, ?_⟩
    simp only [FileSystem.currentVersionFile, hlink, hcomplete, Deployment.complete]

theorem Serviceable.currentVersionFile_ne (h : Serviceable fs) :
    fs.currentVersionFile ≠ some .damaged := by
  intro hdamaged
  rcases h.currentVersionFile with hnone | ⟨directory, version, -, -, -, hversion⟩
  · cases hnone.symm.trans hdamaged
  · cases hversion.symm.trans hdamaged

theorem Serviceable.target_ne_other (h : Serviceable fs) : fs.node (inputs.target fs) ≠ .other := by
  rcases target_cases inputs fs with htarget | htarget
  · rw [htarget]
    exact h.unobstructed.nodeA
  · rw [htarget]
    exact h.unobstructed.nodeB

theorem updated_installed (inputs : UpdateInputs) (fs : FileSystem) :
    Updated inputs.coreVersion (fs.installed (inputs.target fs) inputs.coreVersion) :=
  ⟨inputs.target fs, target_cases inputs fs, rfl, withNode_node ..⟩

/-- Where the update is skipped, only the second link can be missing. -/
theorem Serviceable.updated_iff_of_skips (h : Serviceable fs) (hskips : inputs.Skips fs) :
    Updated inputs.coreVersion fs ↔ fs.link .senscord ≠ .absent := by
  constructor
  · rintro ⟨directory, -, hlinks, -⟩ habsent
    rw [hlinks] at habsent
    cases habsent
  · intro hpresent
    rcases h.currentVersionFile with hnone | ⟨directory, version, hdirectory, hlink, hcomplete,
      hversion⟩
    · cases hnone.symm.trans hskips.2
    · have hsame : version = inputs.coreVersion := by
        rw [hskips.2] at hversion
        cases hversion
        rfl
      have hsenscord := (h.sensor directory hlink).resolve_left hpresent
      exact ⟨directory, hdirectory, links_eq hlink hsenscord, hsame ▸ hcomplete⟩

/-- An update to its end keeps the directory that was current. -/
theorem Serviceable.node_installed (h : Serviceable fs) (hinputs : inputs.Complete)
    {directory : Path} (hlink : fs.link .edc = .link directory) (version : String) :
    (fs.installed (inputs.target fs) version).node directory = fs.node directory := by
  rcases h.active with habsent | ⟨active, hactive, hactiveLink, -⟩
  · cases habsent.symm.trans hlink
  · obtain rfl := LinkNode.link.inj (hactiveLink.symm.trans hlink)
    have hne := target_ne_of_link hactive hlink fun _ ↦ hinputs.readlinkSucceeds
    exact Function.update_of_ne hne.symm ..

end Serviceable

/-- After any interrupted runs, a run with complete packages that nothing stops comes to its end
and keeps the deployment that was current. It leaves the device with both links on a complete
deployment of its version, unless it is skipped while the second link is missing. -/
theorem updated_after_interruptions {runs : List UpdateRun} {fs : FileSystem} (h : Serviceable fs)
    (hreads : AllReadActive runs fs)
    (hleaves : ∀ run ∈ runs, ∀ outcome ∈ run.outcomes, outcome.LeavesDirectory)
    {inputs : UpdateInputs} (hinputs : inputs.Complete) :
    ∃ after : ScriptState,
      (∃ count, ∀ rest, runUpdate inputs (List.replicate count .succeeds ++ rest)
        (runUpdates runs fs) = (.finished (), after)) ∧
      (Updated inputs.coreVersion after.fs ↔
        (inputs.Skips (runUpdates runs fs) → (runUpdates runs fs).link .senscord ≠ .absent)) ∧
      ∀ directory, (runUpdates runs fs).link .edc = .link directory →
        after.fs.node directory = (runUpdates runs fs).node directory := by
  have hdevice := serviceable_runUpdates runs fs h hreads hleaves
  obtain ⟨hended, hfiles⟩ := runUndisturbed_eq hinputs hdevice.currentVersionFile_ne
    hdevice.target_ne_other hdevice.unobstructed.links
  obtain ⟨count, hcount⟩ := exists_runUpdate_eq inputs (runUpdates runs fs)
  refine ⟨(runUndisturbed inputs (runUpdates runs fs)).2, ⟨count, fun rest ↦ ?_⟩, ?_, ?_⟩
  · rw [hcount rest, ← hended]
  · rw [hfiles]
    split_ifs with hskips
    · rw [hdevice.updated_iff_of_skips hskips]
      exact ⟨fun hpresent _ ↦ hpresent, fun hpresent ↦ hpresent hskips⟩
    · exact iff_of_true (updated_installed inputs _) fun hskip ↦ absurd hskip hskips
  · intro directory hlink
    rw [hfiles]
    split_ifs
    · rfl
    · exact hdevice.node_installed hinputs hlink _

/-! ## A run that is killed between the two links -/

theorem serviceable_firstCurrent : Serviceable firstCurrent where
  active := activeComplete_firstCurrent
  unobstructed :=
    { links := fun path _ ↦ by cases path <;> exact nofun
      nodeA := by decide
      nodeB := by decide }
  sensor directory hdirectory := by
    obtain rfl := LinkNode.link.inj hdirectory
    exact .inr rfl

/-- `/opt/edc` leads to the new deployment, and `/opt/senscord` is missing. -/
def killedBetweenLinks : List UpdateRun := [⟨updateToTwo, List.replicate 60 .succeeds⟩]

theorem complete_updateToTwo : updateToTwo.Complete := by
  constructor <;> decide

/-- The same update again ends with success and does not make the missing link. -/
theorem updated_after_interruptions_killedBetweenLinks :
    ∃ after : ScriptState,
      (∃ count, ∀ rest, runUpdate updateToTwo (List.replicate count .succeeds ++ rest)
        (runUpdates killedBetweenLinks firstCurrent) = (.finished (), after)) ∧
      ¬ Updated "2.0.0" after.fs := by
  have hleaves : ∀ run ∈ killedBetweenLinks, ∀ outcome ∈ run.outcomes,
      outcome.LeavesDirectory := by
    intro run hrun outcome houtcome
    obtain rfl := List.mem_singleton.mp hrun
    obtain rfl := List.eq_of_mem_replicate houtcome
    exact trivial
  have hreads : AllReadActive killedBetweenLinks firstCurrent := ⟨fun _ _ ↦ rfl, trivial⟩
  obtain ⟨after, hended, hupdated, -⟩ := updated_after_interruptions serviceable_firstCurrent
    hreads hleaves complete_updateToTwo
  have hskips : updateToTwo.Skips (runUpdates killedBetweenLinks firstCurrent) := by decide
  have habsent : (runUpdates killedBetweenLinks firstCurrent).link .senscord = .absent := by decide
  exact ⟨after, hended, fun h ↦ hupdated.mp h hskips habsent⟩

end EdgeDeviceCore.Ota
