import EdgeDeviceCore.Platform.CString
import EdgeDeviceCore.Psm.ToolRuns
import EdgeDeviceCore.Semantics.UndisturbedRun

/-!
# The scripts of the package

`mk-deb.sh` writes three scripts into the package, which `dpkg` runs when the package is configured,
before its files are removed and after they are removed or purged. All run with `set -e` on. The
state has what they, the service manager and the user work on; a command on anything else is one
operation that may fail. Each operation comes with an answer of the machine, and a list of answers
that is too short stands for a script that is killed.
-/

open EdgeDeviceCore.Platform
open EdgeDeviceCore.Semantics

namespace EdgeDeviceCore.Package

/-! ## The device -/

structure Device (Path : Type) where
  /-- Database files, those of the user among them. -/
  files : Psm.Files Path
  /-- Whether `/var/lib/edge-device-core/update_psm_db.py` is a file. -/
  tool : Bool
  /-- The files of `/etc/evp` by their names, with what they hold. -/
  evp : List (CString × List Char)
  /-- Whether the service is started when the device boots. -/
  enabled : Bool
  active : Bool

/-- The conditions that the scripts test. -/
inductive Test where
  | toolIsFile
  | udevadmFound
  /-- `-d /run/systemd/system`. -/
  | systemdRuns
  | serviceActive
  | serviceEnabled
  /-- `-L /dev/i2c-imx500`. -/
  | imx500Link
  /-- `-f /etc/udev/rules.d/60-edc.rules`. -/
  | rulesFile
deriving DecidableEq, Repr

/-- What the machine does with one operation. -/
structure Answer (Path : Type) where
  succeeds : Bool
  /-- What the tests find that are not about the state. -/
  holds : Test → Bool
  /-- Whether `systemctl` can be asked about the service. -/
  queries : Bool
  /-- What `sqlite3` and the tool meet. -/
  machine : Psm.Machine Path
  /-- What is gone when `rm -rf` fails. -/
  losesDb : Bool
  losesTool : Bool
  loses : CString → Bool

/-- The device, and the keys that `postinst` has warned of. -/
structure ScriptState (Path : Type) where
  device : Device Path
  warnings : List (List Char)

/-! ## Operations -/

inductive Command where
  /-- A command that changes nothing of the state. -/
  | elsewhere
  | touch (name : CString)
  | createTable
  | stopService
  | disableService
  /-- `rm -rf /var/lib/edge-device-core`. -/
  | rmData
  /-- `rm -rf /etc/evp`. -/
  | rmEvp
deriving DecidableEq, Repr

inductive ScriptOp where
  | command (command : Command)
  | test (test : Test)
  /-- `python3 /var/lib/edge-device-core/update_psm_db.py` as a condition. -/
  | tool (key value : List Char)
  /-- `echo "Warning: Failed to set $key"`. -/
  | warn (key : List Char)
deriving DecidableEq, Repr

abbrev ScriptOp.Reply : ScriptOp → Type
  | .command _ => Unit
  | .test _ => Bool
  | .tool _ _ => Bool
  | .warn _ => Unit

abbrev Script := AtomicProgram ScriptOp ScriptOp.Reply

section

variable {Path : Type} [DecidableEq Path]

/-- `touch` makes an empty file if there is none. -/
def touchFile (name : CString) (evp : List (CString × List Char)) : List (CString × List Char) :=
  if name ∈ evp.map Prod.fst then evp else evp ++ [(name, [])]

/-- A command on the device: whether it succeeds, and what it leaves. -/
def Command.run (db : Path) (command : Command) (answer : Answer Path) (device : Device Path) :
    Bool × Device Path :=
  match command with
  | .elsewhere => (answer.succeeds, device)
  | .touch name =>
      (answer.succeeds,
        if answer.succeeds then { device with evp := touchFile name device.evp } else device)
  | .createTable =>
      if !answer.machine.hasSqlite3 then (false, device)
      else
        let shell := Sqlite.runShell answer.machine.creating
          (fun tables ↦ (true, Sqlite.createTable Psm.psmData tables)) (device.files db)
        (shell.1, { device with files := Function.update device.files db shell.2 })
  | .stopService =>
      (answer.succeeds, if answer.succeeds then { device with active := false } else device)
  | .disableService =>
      (answer.succeeds, if answer.succeeds then { device with enabled := false } else device)
  | .rmData =>
      (answer.succeeds, { device with
        files := if answer.succeeds || answer.losesDb then Function.update device.files db .missing
          else device.files
        tool := device.tool && !(answer.succeeds || answer.losesTool) })
  | .rmEvp =>
      (answer.succeeds, { device with
        evp := device.evp.filter fun file ↦ !(answer.succeeds || answer.loses file.1) })

def Test.holds (test : Test) (answer : Answer Path) (device : Device Path) : Bool :=
  match test with
  | .toolIsFile => device.tool
  | .udevadmFound | .systemdRuns | .imx500Link | .rulesFile => answer.holds test
  | .serviceActive => answer.queries && device.active
  | .serviceEnabled => answer.queries && device.enabled

/-- `--key "$key" --value "$value" --db-file /var/lib/edge-device-core/db.sqlite3`. -/
def toolArguments (db : Path) (key value : List Char) : Psm.Arguments Path where
  key := some key
  value := some (.utf8 (String.ofList value))
  valueFile := none
  dbFile := some db
  showDb := false
  showKeys := false
  logFile := none

variable [PythonRelease]

/-- Under `set -e` a command that fails ends the script. The tool does not run if there is no
Python. -/
def step (db : Path) :
    StoppedRun.Step ScriptOp (Answer Path) (ScriptState Path) ScriptOp.Reply
  | .command command, answer, state =>
      let result := command.run db answer state.device
      (if result.1 then some () else none, { state with device := result.2 })
  | .test test, answer, state => (some (test.holds answer state.device), state)
  | .tool key value, answer, state =>
      if answer.succeeds then
        let result := Psm.main answer.machine (toolArguments db key value) state.device.files
        (some result.1, { state with device := { state.device with files := result.2 } })
      else (some false, state)
  | .warn key, answer, state =>
      if answer.succeeds then (some (), { state with warnings := state.warnings ++ [key] })
      else (none, state)

end

/-! ## The scripts -/

def command (command : Command) : Script Unit :=
  .issue (.command command) .done

def elsewhere : Script Unit := command .elsewhere

def test (condition : Test) : Script Bool :=
  .issue (.test condition) .done

/-- `if condition; then body; fi`. -/
def whenHolds (condition : Test) (body : Script Unit) : Script Unit := do
  if ← test condition then body else pure ()

def reloadUdevRules : Script Unit := do
  if ← test .udevadmFound then
    elsewhere
    elsewhere
    elsewhere
  else elsewhere

def certPlaceholder : CString := "00000000-0000-0000-0000-000000000000_cert.pem".toList

def keyPlaceholder : CString := "00000000-0000-0000-0000-000000000000_key.pem".toList

@[irreducible]
def dbEntries : List Char :=
  ("PlStorageDataEvpHubURL=127.0.0.1 PlStorageDataEvpHubPort=1883 " ++
    "PlStorageDataEvpIotPlatform=TB PlStorageDataEvpTls=1").toList

/-- The words of an unquoted expansion. -/
def words (text : List Char) : List (List Char) :=
  (text.splitOn ' ').filter (· ≠ [])

/-- `cut -d= -f`. A line without the delimiter is printed as it is. -/
def cutField (field : ℕ) (line : List Char) : List Char :=
  if '=' ∈ line then ((line.splitOn '=')[field - 1]?).getD [] else line

/-- The tool is run for one key, and a failure is only warned of. -/
def setEntry (key value : List Char) : Script Unit := do
  if ← .issue (.tool key value) .done then pure ()
  else .issue (.warn key) .done

def setEntries : List (List Char) → Script Unit
  | [] => pure ()
  | entry :: entries => do
      elsewhere
      elsewhere
      setEntry (cutField 1 entry) (cutField 2 entry)
      setEntries entries

def setUpDatabase : Script Unit := do
  if ← test .toolIsFile then
    elsewhere
    command .createTable
    setEntries (words dbEntries)
    elsewhere
    elsewhere
  else elsewhere

/-- `mkdir -p` and `chmod` of three directories. -/
def makeDirectories : Script Unit := do
  elsewhere
  elsewhere
  elsewhere
  elsewhere
  elsewhere
  elsewhere

def touchPlaceholders : Script Unit := do
  command (.touch certPlaceholder)
  command (.touch keyPlaceholder)

/-- The user is told how to enable and start the service. -/
def reloadDaemon : Script Unit :=
  whenHolds .systemdRuns do
    elsewhere
    elsewhere

def postinst : Script Unit := do
  makeDirectories
  touchPlaceholders
  setUpDatabase
  reloadUdevRules
  reloadDaemon

def stopAndDisable : Script Unit := do
  whenHolds .serviceActive do
    elsewhere
    command .stopService
  whenHolds .serviceEnabled do
    elsewhere
    command .disableService

def prerm : Script Unit := do
  whenHolds .systemdRuns stopAndDisable
  whenHolds .imx500Link elsewhere

def purgeData : Script Unit := do
  elsewhere
  command .rmData
  -- `rm -rf /evp_data`.
  elsewhere
  command .rmEvp
  whenHolds .rulesFile do
    elsewhere
    elsewhere
    reloadUdevRules

def postrm (purge : Bool) : Script Unit := do
  whenHolds .systemdRuns elsewhere
  reloadUdevRules
  if purge then purgeData else pure ()

end EdgeDeviceCore.Package
