import EdgeDeviceCore.Ota.FileSystem

/-!
# `edc_system_update.sh`

The functions of the script from `perform_update` down, each under its own name. A log line is an
operation, since it can fail and since the script can be killed before it; its text is left out.
Downloads and all else that stays outside the two directories and the two links is one operation
that may fail. `main` runs `perform_update` with `set -e` on.
-/

open EdgeDeviceCore.Semantics

namespace EdgeDeviceCore.Ota

def edcDirA : Path := "/opt/edcA"
def edcDirB : Path := "/opt/edcB"

/-- The text of `EDC_SYMLINK` and of `SENSCORD_SYMLINK`. -/
def LinkPath.path : LinkPath → Path
  | .edc => "/opt/edc"
  | .senscord => "/opt/senscord"

/-- `"$target_dir/opt/senscord"`. -/
def senscordTarget (targetDir : Path) : Path := targetDir ++ "/opt/senscord"

/-! ## Operations -/

def command (command : Command) : Script Unit :=
  .issue (.command command) .done

def log : Script Unit := command .log

def elsewhere : Script Unit := command .elsewhere

def onTarget (directory : Path) (targetCommand : TargetCommand) : Script Unit :=
  command (.target directory targetCommand)

def errorExit (message : String) : Script Unit :=
  .issue (.errorExit message) .done

/-- `error_exit` unless a condition holds. -/
def require (condition : Bool) (message : String) : Script Unit :=
  if condition then pure () else errorExit message

def test (condition : Test) : Script Bool :=
  .issue (.test condition) .done

/-- `if [[ ! condition ]]; then error_exit message; fi`. -/
def requireTest (condition : Test) (message : String) : Script Unit := do
  require (← test condition) message

/-- `if ! command; then error_exit message; fi`. -/
def orExit (command : Command) (message : String) : Script Unit := do
  require (← .issue (.attempt command) .done) message

/-! ## Choosing the target -/

/-- The warnings stand in a command substitution, so that they cannot stop the script. -/
def detectCurrentDeployment : Script String := do
  if ← test (.isLink .edc) then
    .issue .readlink .done
  else
    pure ""

def getTargetDeployment (currentDeployment : String) : Path :=
  if currentDeployment = edcDirA then edcDirB
  else if currentDeployment = edcDirB then edcDirA
  else edcDirA

/-! ## Filling the target -/

/-- Remove a directory if there is one. -/
def removeDirectory (targetDir : Path) : Script Unit := do
  if ← test (.isDirectory targetDir) then
    log
    onTarget targetDir .rmRecursive
  else
    pure ()

def createDeploymentStructure (targetDir : Path) : Script Unit := do
  log
  removeDirectory targetDir
  onTarget targetDir .mkdir
  log

/-- Find a file in the extracted core package; if there is none, list others and leave. -/
def findInPackage (found : Bool) (message : String) : Script Unit := do
  elsewhere
  if found then
    log
  else
    log
    elsewhere
    errorExit message

def installCorePackages (inputs : UpdateInputs) (targetDir : Path) : Script Unit := do
  log
  log
  elsewhere
  orExit .elsewhere "Failed to extract core .deb package"
  findInPackage inputs.coreHasBinary "Could not find edge_device_core binary in extracted package"
  findInPackage inputs.coreHasLibrary
    "Could not find libparameter_storage_manager.so in extracted package"
  onTarget targetDir (.cpBinary inputs.coreVersion inputs.binaryExecutable)
  onTarget targetDir .chmodBinary
  onTarget targetDir (.cpLibrary inputs.coreVersion)
  onTarget targetDir .chmodLibrary
  -- The version file is made in `/tmp` and moved.
  elsewhere
  elsewhere
  onTarget targetDir (.mvVersionEdc inputs.coreVersion)
  log
  log

def installSensorPackage (inputs : UpdateInputs) (targetDir : Path) : Script Unit := do
  log
  elsewhere
  require (inputs.sensorVersion ≠ "") "Could not extract version from sensor .deb package"
  log
  orExit (.target targetDir (.dpkgDebExtract inputs.sensorHasSenscord))
    "Failed to extract sensor package"
  requireTest (.isSenscordDirectory targetDir)
    ("Senscord directory not found after extraction: " ++ senscordTarget targetDir)
  elsewhere
  elsewhere
  onTarget targetDir .mvVersionSenscord
  log
  log

def validateInstallation (targetDir : Path) : Script Unit := do
  log
  requireTest (.isBinaryFile targetDir)
    ("Required file missing: " ++ targetDir ++ "/bin/edge_device_core")
  requireTest (.isLibraryFile targetDir)
    ("Required file missing: " ++ targetDir ++ "/lib/libparameter_storage_manager.so")
  requireTest (.isSenscordDirectory targetDir)
    ("Required senscord directory not found: " ++ senscordTarget targetDir)
  log
  requireTest (.isBinaryExecutable targetDir) "edge_device_core binary is not executable"
  log

/-! ## Switching the links -/

/-- Remove a link if there is one, and leave if there is something else. -/
def removeLink (path : LinkPath) : Script Unit := do
  if ← test (.isLink path) then
    command (.link (.rm path))
  else
    require (!(← test (.pathExists path)))
      (path.path ++ " exists but is not a symbolic link")

def updateSymbolicLink (targetDir : Path) : Script Unit := do
  log
  removeLink .edc
  removeLink .senscord
  orExit (.link (.ln targetDir .edc)) "Failed to create EDC symbolic link"
  requireTest (.isSenscordDirectory targetDir)
    ("Senscord directory not found at " ++ senscordTarget targetDir)
  orExit (.link (.ln (senscordTarget targetDir) .senscord))
    "Failed to create senscord symbolic link"
  log
  log
  log

/-! ## The update -/

def downloadCorePackages : Script Unit := elsewhere

def downloadSensorPackage : Script Unit := elsewhere

/-- Whether the version of the current deployment is that of the downloaded package. -/
def isAlreadyLatest (inputs : UpdateInputs) : Script Bool := do
  if inputs.forceUpdate then
    log
    pure false
  else if ← test .isCurrentVersionFile then
    let currentVersion ← .issue .grepCurrentVersion .done
    log
    pure (currentVersion ≠ "" && currentVersion = inputs.coreVersion)
  else
    log
    pure false

/-- `perform_update` from where it chooses its target. -/
def deploy (inputs : UpdateInputs) : Script Unit := do
  let currentDeployment ← detectCurrentDeployment
  let targetDeployment := getTargetDeployment currentDeployment
  -- The two command substitutions themselves can fail.
  elsewhere
  log
  log
  log
  createDeploymentStructure targetDeployment
  installCorePackages inputs targetDeployment
  installSensorPackage inputs targetDeployment
  validateInstallation targetDeployment
  updateSymbolicLink targetDeployment
  log
  log
  log

def performUpdate (inputs : UpdateInputs) : Script Unit := do
  log
  elsewhere
  log
  downloadCorePackages
  downloadSensorPackage
  elsewhere
  require (inputs.coreVersion ≠ "") "Could not extract version from downloaded .deb package"
  log
  if ← isAlreadyLatest inputs then
    log
    pure ()
  else
    deploy inputs

/-- One run of the script, with an outcome for each of its operations. -/
def runUpdate (inputs : UpdateInputs) (outcomes : List Outcome) (fs : FileSystem) :
    StoppedRun.Ending Unit × ScriptState :=
  StoppedRun.run (step inputs) (performUpdate inputs) outcomes ⟨fs, []⟩

/-- An update to version 2.0.0, with all that it needs in its packages. -/
def updateToTwo : UpdateInputs where
  forceUpdate := false
  coreVersion := "2.0.0"
  coreHasBinary := true
  coreHasLibrary := true
  binaryExecutable := true
  sensorVersion := "2.0.0"
  sensorHasSenscord := true
  readlinkSucceeds := true

end EdgeDeviceCore.Ota
