import EdgeDeviceCore.Semantics.StoppedRun

/-!
# The files that an update works on

`edc_system_update.sh` installs a deployment into one of two directories below `/opt` and switches
two links to it. The state has what the links are and what the directories hold; the packages, the
temporary files and the network are inputs of a run. Each command of the script is one operation.
It succeeds, or it fails and leaves its target directory in any condition, or the script is killed
before it. Tests do not fail.
-/

open EdgeDeviceCore.Semantics

namespace EdgeDeviceCore.Ota

abbrev Path := String

/-! ## Files -/

/-- A file that is installed from a package, known by the version of the package. -/
inductive InstalledFile where
  | ofPackage (version : String)
  | damaged
deriving DecidableEq, Repr

/-- The content of `version_edc.txt`. -/
inductive VersionFile where
  /-- A line that starts with `Version:`. -/
  | stating (version : String)
  /-- No such line. -/
  | damaged
deriving DecidableEq, Repr

/-- What a deployment directory holds. -/
structure Deployment where
  /-- `bin/edge_device_core`. -/
  binary : Option InstalledFile
  binaryExecutable : Bool
  /-- `lib/libparameter_storage_manager.so`. -/
  library : Option InstalledFile
  versionEdc : Option VersionFile
  /-- Whether `opt/senscord` is a directory. -/
  senscord : Bool
deriving DecidableEq, Repr

def Deployment.empty : Deployment := ⟨none, false, none, none, false⟩

/-- What there is at the path of a deployment directory. -/
inductive Node where
  | absent
  | directory (deployment : Deployment)
  | other
deriving DecidableEq, Repr

/-- `EDC_SYMLINK` and `SENSCORD_SYMLINK`. -/
inductive LinkPath where
  | edc
  | senscord
deriving DecidableEq, Repr

/-- What there is at the path of a link. -/
inductive LinkNode where
  | absent
  | link (text : Path)
  /-- Some other file, or a directory with a version file or none. -/
  | other (versionEdc : Option VersionFile)
deriving DecidableEq, Repr

structure FileSystem where
  link : LinkPath → LinkNode
  /-- By the text of a path: no directory is known under two names. -/
  node : Path → Node

/-- The version file that `/opt/edc/version_edc.txt` reaches. -/
def FileSystem.currentVersionFile (fs : FileSystem) : Option VersionFile :=
  match fs.link .edc with
  | .absent => none
  | .other versionEdc => versionEdc
  | .link text =>
      match fs.node text with
      | .directory deployment => deployment.versionEdc
      | _ => none

/-! ## Commands -/

/-- The commands on the target directory. -/
inductive TargetCommand where
  | rmRecursive
  | mkdir
  | cpBinary (version : String) (executable : Bool)
  | chmodBinary
  | cpLibrary (version : String)
  | chmodLibrary
  | mvVersionEdc (version : String)
  /-- `dpkg-deb -x` of the sensor package, which only adds files below `opt/`. -/
  | dpkgDebExtract (hasSenscord : Bool)
  | mvVersionSenscord
deriving DecidableEq, Repr

/-- The commands on the two links. -/
inductive LinkCommand where
  | rm (path : LinkPath)
  | ln (text : Path) (path : LinkPath)
deriving DecidableEq, Repr

inductive Command where
  /-- One line of the log. -/
  | log
  /-- A command on the packages, on temporary files or on the network. -/
  | elsewhere
  | target (directory : Path) (command : TargetCommand)
  | link (command : LinkCommand)
deriving DecidableEq, Repr

/-- What a command makes of its target directory, where it can succeed. -/
def TargetCommand.effect : TargetCommand → Node → Option Node
  | .rmRecursive, _ => some .absent
  | .mkdir, .absent => some (.directory .empty)
  | .mkdir, .directory deployment => some (.directory deployment)
  | .cpBinary version executable, .directory deployment =>
      some (.directory { deployment with
        binary := some (.ofPackage version), binaryExecutable := executable })
  | .chmodBinary, .directory deployment =>
      some (.directory { deployment with binaryExecutable := true })
  | .cpLibrary version, .directory deployment =>
      some (.directory { deployment with library := some (.ofPackage version) })
  | .chmodLibrary, .directory deployment => some (.directory deployment)
  | .mvVersionEdc version, .directory deployment =>
      some (.directory { deployment with versionEdc := some (.stating version) })
  | .dpkgDebExtract hasSenscord, .directory deployment =>
      some (.directory { deployment with senscord := deployment.senscord || hasSenscord })
  | .mvVersionSenscord, .directory deployment => some (.directory deployment)
  | _, _ => none

/-- What a command makes of the links, where it can succeed. The script only removes links, and
only makes a link where nothing is. -/
def LinkCommand.effect : LinkCommand → (LinkPath → LinkNode) → Option (LinkPath → LinkNode)
  | .rm path, links =>
      match links path with
      | .link _ => some (Function.update links path .absent)
      | _ => none
  | .ln text path, links =>
      match links path with
      | .absent => some (Function.update links path (.link text))
      | _ => none

def Command.effect (command : Command) (fs : FileSystem) : Option FileSystem :=
  match command with
  | .log | .elsewhere => some fs
  | .target directory command =>
      (command.effect (fs.node directory)).map fun node ↦
        { fs with node := Function.update fs.node directory node }
  | .link command => (command.effect fs.link).map fun links ↦ { fs with link := links }

/-- What a command leaves when it fails: its target directory in some condition. -/
def Command.damage (command : Command) (left : Node) (fs : FileSystem) : FileSystem :=
  match command with
  | .target directory _ => { fs with node := Function.update fs.node directory left }
  | _ => fs

/-- How an operation turns out. -/
inductive Outcome where
  | succeeds
  | fails (left : Node)
deriving DecidableEq, Repr

/-- The files, and the commands tried so far with whether they succeeded. -/
structure ScriptState where
  fs : FileSystem
  history : List (Command × Bool)

def ScriptState.perform (command : Command) (outcome : Outcome) (state : ScriptState) :
    Option Unit × ScriptState :=
  match outcome with
  | .succeeds =>
      match command.effect state.fs with
      | some fs => (some (), ⟨fs, state.history ++ [(command, true)]⟩)
      | none => (none, ⟨state.fs, state.history ++ [(command, false)]⟩)
  | .fails left => (none, ⟨command.damage left state.fs, state.history ++ [(command, false)]⟩)

/-! ## Operations of the script -/

/-- The conditions that the script tests. -/
inductive Test where
  /-- `-L`. -/
  | isLink (path : LinkPath)
  /-- `-e`. -/
  | pathExists (path : LinkPath)
  /-- `-f` of `/opt/edc/version_edc.txt`. -/
  | isCurrentVersionFile
  | isDirectory (directory : Path)
  | isSenscordDirectory (directory : Path)
  | isBinaryFile (directory : Path)
  | isLibraryFile (directory : Path)
  | isBinaryExecutable (directory : Path)
deriving DecidableEq, Repr

/-- A condition on what a directory holds; there is no directory for it to fail on otherwise. -/
def FileSystem.deploymentTest (fs : FileSystem) (directory : Path) (test : Deployment → Bool) :
    Bool :=
  match fs.node directory with
  | .directory deployment => test deployment
  | _ => false

def FileSystem.holds (fs : FileSystem) : Test → Bool
  | .isLink path =>
      match fs.link path with
      | .link _ => true
      | _ => false
  | .pathExists path =>
      match fs.link path with
      | .absent => false
      | .link text => fs.node text ≠ .absent
      | .other _ => true
  | .isCurrentVersionFile => fs.currentVersionFile.isSome
  | .isDirectory directory => fs.deploymentTest directory fun _ ↦ true
  | .isSenscordDirectory directory => fs.deploymentTest directory Deployment.senscord
  | .isBinaryFile directory => fs.deploymentTest directory fun deployment ↦ deployment.binary.isSome
  | .isLibraryFile directory =>
      fs.deploymentTest directory fun deployment ↦ deployment.library.isSome
  | .isBinaryExecutable directory => fs.deploymentTest directory Deployment.binaryExecutable

/-- One operation of the script. -/
inductive ScriptOp where
  | command (command : Command)
  /-- A command as a condition, where `set -e` is off. -/
  | attempt (command : Command)
  /-- `error_exit`, which ends the script. -/
  | errorExit (message : String)
  | test (test : Test)
  /-- `grep '^Version:' "$current_version_file" | awk '\x7bprint $2\x7d'`. -/
  | grepCurrentVersion
  /-- `readlink "$EDC_SYMLINK"`. -/
  | readlink
deriving DecidableEq, Repr

abbrev ScriptOp.Reply : ScriptOp → Type
  | .command _ => Unit
  | .attempt _ => Bool
  | .errorExit _ => Unit
  | .test _ => Bool
  | .grepCurrentVersion => String
  | .readlink => String

abbrev Script := AtomicProgram ScriptOp ScriptOp.Reply

/-- What one run of the script finds outside its own files. -/
structure UpdateInputs where
  /-- `--force`. -/
  forceUpdate : Bool
  /-- The version of the core package, empty if there is none in it. -/
  coreVersion : String
  coreHasBinary : Bool
  coreHasLibrary : Bool
  /-- Whether the binary is executable in the package. -/
  binaryExecutable : Bool
  /-- The version of the sensor package, empty if there is none in it. -/
  sensorVersion : String
  sensorHasSenscord : Bool
  /-- Whether `readlink` succeeds if the script comes to it. -/
  readlinkSucceeds : Bool
deriving DecidableEq, Repr

/-- A command substitution drops the newlines at the end of a text. -/
def substituted (text : String) : String :=
  String.ofList (text.toList.rdropWhile (· = '\n'))

/-- What the `readlink` of `detect_current_deployment` makes of `/opt/edc`. It runs in a command
substitution, where `set -e` is off: if it fails, its text is empty and the script goes on. -/
def UpdateInputs.readlink (inputs : UpdateInputs) (fs : FileSystem) : String :=
  match fs.link .edc with
  | .link text => if inputs.readlinkSucceeds then substituted text else ""
  | _ => ""

/-- Under `set -e` a command that fails ends the script. -/
def step (inputs : UpdateInputs) : StoppedRun.Step ScriptOp Outcome ScriptState ScriptOp.Reply
  | .command command, outcome, state => state.perform command outcome
  | .attempt command, outcome, state =>
      (some (state.perform command outcome).1.isSome, (state.perform command outcome).2)
  | .errorExit _, _, state => (none, state)
  | .test test, _, state => (some (state.fs.holds test), state)
  | .grepCurrentVersion, .succeeds, state =>
      match state.fs.currentVersionFile with
      | some (.stating version) => (some version, state)
      | _ => (none, state)
  | .grepCurrentVersion, .fails _, state => (none, state)
  | .readlink, _, state => (some (inputs.readlink state.fs), state)

end EdgeDeviceCore.Ota
