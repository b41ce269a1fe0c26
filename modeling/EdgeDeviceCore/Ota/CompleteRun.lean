import EdgeDeviceCore.Ota.Progress
import EdgeDeviceCore.Ota.LinkSwitch
import EdgeDeviceCore.Semantics.UndisturbedRun

/-!
# Runs in which every command succeeds

What the script makes of the files when nothing stops it: with complete packages, a target that is
a directory or nothing and links where it expects them, both links lead to a complete deployment
afterwards, and no other directory has changed.
-/

open EdgeDeviceCore.Semantics StoppedRun

namespace EdgeDeviceCore.Ota

/-- The packages have all that the script looks for, and the current link is read. -/
structure UpdateInputs.Complete (inputs : UpdateInputs) : Prop where
  coreVersion : inputs.coreVersion ≠ ""
  coreHasBinary : inputs.coreHasBinary = true
  coreHasLibrary : inputs.coreHasLibrary = true
  sensorVersion : inputs.sensorVersion ≠ ""
  sensorHasSenscord : inputs.sensorHasSenscord = true
  readlinkSucceeds : inputs.readlinkSucceeds = true

/-- A run in which every command succeeds that can. -/
def runUndisturbed (inputs : UpdateInputs) (fs : FileSystem) : Ending Unit × ScriptState :=
  runWith (step inputs) .succeeds (performUpdate inputs) ⟨fs, []⟩

/-- Enough successes run the script to its end. -/
theorem exists_runUpdate_eq (inputs : UpdateInputs) (fs : FileSystem) :
    ∃ count, ∀ rest, runUpdate inputs (List.replicate count .succeeds ++ rest) fs =
      runUndisturbed inputs fs :=
  exists_run_eq_runWith (performUpdate inputs) _

/-- The program of the script takes the files to others, with a result. -/
abbrev Script.Takes {Result : Type} (inputs : UpdateInputs) (program : Script Result)
    (fs : FileSystem) (result : Result) (after : FileSystem) : Prop :=
  Completes (step inputs) .succeeds ScriptState.fs program fs result after

/-- One directory holds something else. -/
def FileSystem.withNode (fs : FileSystem) (directory : Path) (node : Node) : FileSystem :=
  { fs with node := Function.update fs.node directory node }

@[simp]
theorem withNode_node (fs : FileSystem) (directory : Path) (node : Node) :
    (fs.withNode directory node).node directory = node :=
  Function.update_self ..

@[simp]
theorem withNode_withNode (fs : FileSystem) (directory : Path) (node later : Node) :
    (fs.withNode directory node).withNode directory later = fs.withNode directory later :=
  congrArg (FileSystem.mk fs.link) (Function.update_idem ..)

@[simp]
theorem withNode_link (fs : FileSystem) (directory : Path) (node : Node) :
    (fs.withNode directory node).link = fs.link := rfl

@[simp]
theorem deploymentTest_withNode (fs : FileSystem) (directory : Path) (deployment : Deployment)
    (test : Deployment → Bool) :
    (fs.withNode directory (.directory deployment)).deploymentTest directory test =
      test deployment := by
  rw [FileSystem.deploymentTest, withNode_node]

/-- The links are others. -/
def FileSystem.withLinks (fs : FileSystem) (links : LinkPath → LinkNode) : FileSystem :=
  { fs with link := links }

/-! ## Operations -/

section Operations

variable {inputs : UpdateInputs} {fs after : FileSystem}

theorem perform_of_effect {command : Command} {state : ScriptState}
    (h : command.effect state.fs = some after) :
    state.perform command .succeeds = (some (), ⟨after, state.history ++ [(command, true)]⟩) := by
  simp only [ScriptState.perform, h]

theorem takes_command {command : Command} (h : command.effect fs = some after) :
    (Ota.command command).Takes inputs fs () after := by
  apply completes_issue
  rintro state rfl
  exact ⟨_, perform_of_effect h, rfl⟩

theorem takes_log : log.Takes inputs fs () fs := takes_command rfl

theorem takes_elsewhere : elsewhere.Takes inputs fs () fs := takes_command rfl

theorem takes_onTarget {directory : Path} {targetCommand : TargetCommand} {node : Node}
    (h : targetCommand.effect (fs.node directory) = some node) :
    (onTarget directory targetCommand).Takes inputs fs () (fs.withNode directory node) :=
  takes_command (by rw [Command.effect, h]; rfl)

theorem takes_test (condition : Test) :
    (test condition).Takes inputs fs (fs.holds condition) fs := by
  apply completes_issue
  rintro state rfl
  exact ⟨state, rfl, rfl⟩

theorem takes_require {condition : Bool} {message : String} (h : condition = true) :
    (require condition message).Takes inputs fs () fs := by
  rw [require, if_pos h]
  exact completes_done ()

theorem takes_requireTest {condition : Test} {message : String} (h : fs.holds condition = true) :
    (requireTest condition message).Takes inputs fs () fs :=
  (takes_test condition).bind (takes_require h)

theorem takes_orExit {command : Command} {message : String} (h : command.effect fs = some after) :
    (orExit command message).Takes inputs fs () after := by
  have hattempt : Script.Takes inputs (.issue (.attempt command) .done) fs true after := by
    apply completes_issue
    rintro state rfl
    refine ⟨⟨after, state.history ++ [(command, true)]⟩, ?_, rfl⟩
    rw [step, perform_of_effect h]
    rfl
  exact hattempt.bind (takes_require rfl)

end Operations

/-! ## Functions of the script -/

section Functions

variable {inputs : UpdateInputs} {fs : FileSystem} {directory : Path} {deployment : Deployment}

theorem takes_detectCurrentDeployment :
    detectCurrentDeployment.Takes inputs fs (inputs.readlink fs) fs := by
  apply (takes_test (.isLink .edc)).bind
  cases hlink : fs.holds (.isLink .edc) with
  | true =>
      apply completes_issue
      rintro state rfl
      exact ⟨state, rfl, rfl⟩
  | false =>
      rw [readlink_of_not_isLink hlink]
      exact completes_done ""

/-- A directory that is there is removed. -/
theorem takes_removeDirectory (h : fs.node directory ≠ .other) :
    (removeDirectory directory).Takes inputs fs () (fs.withNode directory .absent) := by
  apply (takes_test (.isDirectory directory)).bind
  cases hnode : fs.node directory with
  | absent =>
      have hsame : fs.withNode directory .absent = fs := by
        rw [FileSystem.withNode, ← hnode, Function.update_eq_self]
      rw [FileSystem.holds, FileSystem.deploymentTest, hnode, hsame]
      exact completes_done ()
  | directory deployment =>
      rw [FileSystem.holds, FileSystem.deploymentTest, hnode]
      exact takes_log.bind (takes_onTarget rfl)
  | other => exact absurd hnode h

/-- A command on a directory that is known. -/
theorem takes_onNode {targetCommand : TargetCommand} {node made : Node}
    (h : targetCommand.effect node = some made) :
    (onTarget directory targetCommand).Takes inputs (fs.withNode directory node) ()
      (fs.withNode directory made) := by
  rw [← withNode_withNode fs directory node made]
  apply takes_onTarget
  rw [withNode_node]
  exact h

theorem takes_createDeploymentStructure (h : fs.node directory ≠ .other) :
    (createDeploymentStructure directory).Takes inputs fs ()
      (fs.withNode directory (.directory .empty)) := by
  apply takes_log.bind
  apply (takes_removeDirectory h).bind
  exact (takes_onNode rfl).bind takes_log

theorem takes_findInPackage {found : Bool} {message : String} (h : found = true) :
    (findInPackage found message).Takes inputs fs () fs := by
  rw [findInPackage, if_pos h]
  exact takes_elsewhere.bind takes_log

theorem takes_installCorePackages (h : inputs.Complete) :
    (installCorePackages inputs directory).Takes inputs
      (fs.withNode directory (.directory deployment)) ()
      (fs.withNode directory (.directory { deployment with
        binary := some (.ofPackage inputs.coreVersion)
        binaryExecutable := true
        library := some (.ofPackage inputs.coreVersion)
        versionEdc := some (.stating inputs.coreVersion) })) := by
  refine takes_log.bind (takes_log.bind (takes_elsewhere.bind ?_))
  refine (takes_orExit rfl).bind ((takes_findInPackage h.coreHasBinary).bind ?_)
  refine (takes_findInPackage h.coreHasLibrary).bind ((takes_onNode rfl).bind ?_)
  refine (takes_onNode rfl).bind ((takes_onNode rfl).bind ?_)
  refine (takes_onNode rfl).bind (takes_elsewhere.bind (takes_elsewhere.bind ?_))
  exact (takes_onNode rfl).bind (takes_log.bind takes_log)

theorem takes_installSensorPackage (h : inputs.Complete) :
    (installSensorPackage inputs directory).Takes inputs
      (fs.withNode directory (.directory deployment)) ()
      (fs.withNode directory (.directory { deployment with senscord := true })) := by
  refine takes_log.bind (takes_elsewhere.bind ?_)
  refine (takes_require (decide_eq_true h.sensorVersion)).bind (takes_log.bind ?_)
  have hextract : Command.effect
      (.target directory (.dpkgDebExtract inputs.sensorHasSenscord))
      (fs.withNode directory (.directory deployment)) =
        some (fs.withNode directory (.directory { deployment with senscord := true })) := by
    rw [Command.effect, withNode_node, h.sensorHasSenscord, TargetCommand.effect, Bool.or_true]
    exact congrArg some (withNode_withNode ..)
  apply (takes_orExit hextract).bind
  refine (takes_requireTest ?_).bind (takes_elsewhere.bind (takes_elsewhere.bind ?_))
  · rw [FileSystem.holds, deploymentTest_withNode]
  · exact (takes_onNode rfl).bind (takes_log.bind takes_log)

theorem takes_validateInstallation {version : String} :
    (validateInstallation directory).Takes inputs
      (fs.withNode directory (.directory (.complete version))) ()
      (fs.withNode directory (.directory (.complete version))) := by
  refine takes_log.bind ((takes_requireTest ?_).bind ((takes_requireTest ?_).bind ?_))
  · rw [FileSystem.holds, deploymentTest_withNode]
    rfl
  · rw [FileSystem.holds, deploymentTest_withNode]
    rfl
  refine (takes_requireTest ?_).bind (takes_log.bind ((takes_requireTest ?_).bind takes_log))
  · rw [FileSystem.holds, deploymentTest_withNode]
    rfl
  · rw [FileSystem.holds, deploymentTest_withNode]
    rfl

/-- A link is removed, and one that is not there is no error. -/
theorem takes_removeLink {path : LinkPath} (h : ∀ versionEdc, fs.link path ≠ .other versionEdc) :
    (removeLink path).Takes inputs fs ()
      (fs.withLinks (Function.update fs.link path .absent)) := by
  apply (takes_test (.isLink path)).bind
  cases hlink : fs.link path with
  | absent =>
      have hsame : fs.withLinks (Function.update fs.link path .absent) = fs := by
        rw [FileSystem.withLinks, ← hlink, Function.update_eq_self]
      rw [hsame, FileSystem.holds, hlink]
      apply (takes_test (.pathExists path)).bind
      rw [FileSystem.holds, hlink]
      exact takes_require rfl
  | link text =>
      rw [FileSystem.holds, hlink]
      apply takes_command
      rw [Command.effect, LinkCommand.effect, hlink]
      rfl
  | other versionEdc => exact absurd hlink (h versionEdc)

/-- No link. -/
def noLinks : LinkPath → LinkNode := fun _ ↦ .absent

theorem removed_eq_noLinks (links : LinkPath → LinkNode) :
    Function.update (Function.update links .edc .absent) .senscord .absent = noLinks :=
  links_eq rfl rfl

/-- Both links are removed and made again. -/
theorem takes_updateSymbolicLink (h : ∀ path versionEdc, fs.link path ≠ .other versionEdc)
    (hsenscord : fs.holds (.isSenscordDirectory directory) = true) :
    (updateSymbolicLink directory).Takes inputs fs ()
      (fs.withLinks (switchedLinks directory)) := by
  have hedc : Command.effect (.link (.ln directory .edc)) (fs.withLinks noLinks) =
      some (fs.withLinks (halfSwitchedLinks directory)) :=
    congrArg (fun links ↦ some (fs.withLinks links)) (links_eq rfl rfl)
  have hfound : (fs.withLinks (halfSwitchedLinks directory)).holds
      (.isSenscordDirectory directory) = true := hsenscord
  have hswitched : Command.effect (.link (.ln (senscordTarget directory) .senscord))
      (fs.withLinks (halfSwitchedLinks directory)) =
        some (fs.withLinks (switchedLinks directory)) :=
    congrArg (fun links ↦ some (fs.withLinks links)) (links_eq rfl rfl)
  have hremoved : (removeLink .senscord).Takes inputs
      (fs.withLinks (Function.update fs.link .edc .absent)) () (fs.withLinks noLinks) := by
    rw [← removed_eq_noLinks fs.link]
    exact takes_removeLink (h .senscord)
  refine takes_log.bind ((takes_removeLink (h .edc)).bind (hremoved.bind ?_))
  refine (takes_orExit hedc).bind ((takes_requireTest hfound).bind ?_)
  exact (takes_orExit hswitched).bind (takes_log.bind (takes_log.bind takes_log))

/-! ## The update -/

/-- The version of the package is that of the current deployment, and the update is not forced. -/
def UpdateInputs.Skips (inputs : UpdateInputs) (fs : FileSystem) : Prop :=
  inputs.forceUpdate = false ∧ fs.currentVersionFile = some (.stating inputs.coreVersion)

instance (inputs : UpdateInputs) (fs : FileSystem) : Decidable (inputs.Skips fs) :=
  inferInstanceAs (Decidable (_ ∧ _))

theorem takes_grepCurrentVersion {version : String}
    (h : fs.currentVersionFile = some (.stating version)) :
    Script.Takes inputs (.issue .grepCurrentVersion .done) fs version fs := by
  apply completes_issue
  rintro state rfl
  refine ⟨state, ?_, rfl⟩
  simp only [step, h]

/-- Unless the version file is damaged, the versions are compared. -/
theorem takes_isAlreadyLatest (hversion : inputs.coreVersion ≠ "")
    (hfile : fs.currentVersionFile ≠ some .damaged) :
    (isAlreadyLatest inputs).Takes inputs fs (decide (inputs.Skips fs)) fs := by
  have hgoesOn (h : ¬ inputs.Skips fs) :
      Script.Takes inputs (log >>= fun _ ↦ .done false) fs (decide (inputs.Skips fs)) fs := by
    rw [decide_eq_false h]
    exact takes_log.bind (completes_done false)
  rw [isAlreadyLatest]
  cases hforce : inputs.forceUpdate with
  | true =>
      apply hgoesOn
      rintro ⟨hunforced, -⟩
      cases hforce.symm.trans hunforced
  | false =>
      apply (takes_test .isCurrentVersionFile).bind
      rw [FileSystem.holds]
      cases hcurrent : fs.currentVersionFile with
      | none =>
          apply hgoesOn
          rintro ⟨-, hstates⟩
          cases hcurrent.symm.trans hstates
      | some file =>
          cases file with
          | damaged => exact absurd hcurrent hfile
          | stating version =>
              have hskips : inputs.Skips fs ↔ version ≠ "" ∧ version = inputs.coreVersion := by
                rw [UpdateInputs.Skips, hforce, hcurrent]
                simp only [Option.some.injEq, VersionFile.stating.injEq, true_and]
                exact ⟨fun hsame ↦ ⟨hsame ▸ hversion, hsame⟩, And.right⟩
              apply (takes_grepCurrentVersion hcurrent).bind
              apply takes_log.bind
              rw [decide_eq_decide.mpr hskips, Bool.decide_and]
              exact completes_done _

/-- A complete deployment, and both links lead to it. -/
def FileSystem.installed (fs : FileSystem) (directory : Path) (version : String) : FileSystem :=
  (fs.withNode directory (.directory (.complete version))).withLinks (switchedLinks directory)

theorem takes_deploy (h : inputs.Complete) (hnode : fs.node (inputs.target fs) ≠ .other)
    (hlinks : ∀ path versionEdc, fs.link path ≠ .other versionEdc) :
    (deploy inputs).Takes inputs fs () (fs.installed (inputs.target fs) inputs.coreVersion) := by
  apply takes_detectCurrentDeployment.bind
  refine takes_elsewhere.bind (takes_log.bind (takes_log.bind (takes_log.bind ?_)))
  apply (takes_createDeploymentStructure hnode).bind
  refine (takes_installCorePackages h).bind ((takes_installSensorPackage h).bind ?_)
  apply takes_validateInstallation.bind
  have hsenscord : (fs.withNode (inputs.target fs) (.directory (.complete inputs.coreVersion))).holds
      (.isSenscordDirectory (inputs.target fs)) = true := by
    rw [FileSystem.holds, deploymentTest_withNode]
    rfl
  have hswitched : (updateSymbolicLink (inputs.target fs)).Takes inputs
      (fs.withNode (inputs.target fs) (.directory (.complete inputs.coreVersion))) ()
      (fs.installed (inputs.target fs) inputs.coreVersion) :=
    takes_updateSymbolicLink hlinks hsenscord
  exact hswitched.bind (takes_log.bind (takes_log.bind takes_log))

/-- A run in which every command succeeds leaves the files as they are, or installs its version. -/
theorem takes_performUpdate (h : inputs.Complete)
    (hfile : fs.currentVersionFile ≠ some .damaged) (hnode : fs.node (inputs.target fs) ≠ .other)
    (hlinks : ∀ path versionEdc, fs.link path ≠ .other versionEdc) :
    (performUpdate inputs).Takes inputs fs ()
      (if inputs.Skips fs then fs else fs.installed (inputs.target fs) inputs.coreVersion) := by
  refine takes_log.bind (takes_elsewhere.bind (takes_log.bind (takes_elsewhere.bind ?_)))
  refine takes_elsewhere.bind (takes_elsewhere.bind ?_)
  refine (takes_require (decide_eq_true h.coreVersion)).bind (takes_log.bind ?_)
  apply (takes_isAlreadyLatest h.coreVersion hfile).bind
  by_cases hskips : inputs.Skips fs
  · rw [decide_eq_true hskips, if_pos hskips]
    exact takes_log.bind (completes_done ())
  · rw [decide_eq_false hskips, if_neg hskips]
    exact takes_deploy h hnode hlinks

theorem runUndisturbed_eq (h : inputs.Complete)
    (hfile : fs.currentVersionFile ≠ some .damaged) (hnode : fs.node (inputs.target fs) ≠ .other)
    (hlinks : ∀ path versionEdc, fs.link path ≠ .other versionEdc) :
    (runUndisturbed inputs fs).1 = .finished () ∧ (runUndisturbed inputs fs).2.fs =
      if inputs.Skips fs then fs else fs.installed (inputs.target fs) inputs.coreVersion := by
  obtain ⟨later, hrun, hlater⟩ := takes_performUpdate h hfile hnode hlinks ⟨fs, []⟩ rfl
  rw [runUndisturbed, hrun]
  exact ⟨rfl, hlater⟩

end Functions

end EdgeDeviceCore.Ota
