import EdgeDeviceCore.Data.LastWrite
import EdgeDeviceCore.Platform.SqliteFile
import EdgeDeviceCore.Psm.InsertText

/-!
# Runs of `update_psm_db.py`

An invocation checks its arguments, makes the database if there is none, opens its log and has the
shell store the value. It either stores the value under the key or leaves all rows as they are, so
that after any number of invocations a key has the value of the last one that succeeded. The log is
opened for writing whatever the file is, so that the database is no place for it.
-/

open EdgeDeviceCore.Data
open EdgeDeviceCore.Platform
open EdgeDeviceCore.Semantics

namespace EdgeDeviceCore.Psm

variable {Path : Type} [DecidableEq Path]

/-- The text of `--value`. Bytes that are no UTF-8 are surrogates in it, which `bytes` refuses. -/
inductive ValueText where
  | utf8 (text : String)
  | surrogates
deriving DecidableEq, Repr

/-- The arguments as they are parsed. A key with surrogates is refused, as an empty one is. -/
structure Arguments (Path : Type) where
  key : Option (List Char)
  value : Option ValueText
  valueFile : Option Path
  dbFile : Option Path
  showDb : Bool
  showKeys : Bool
  logFile : Option Path

/-- What an invocation meets besides the database files. -/
structure Machine (Path : Type) where
  /-- Without the command, `subprocess.run` raises an exception. -/
  hasSqlite3 : Bool
  /-- `sqlite3 --version`. -/
  versionWorks : Bool
  creating : Sqlite.Condition
  inserting : Sqlite.Condition
  selecting : Sqlite.Condition
  isFile : Path → Bool
  /-- The bytes of the file for the value when it is read, or `none` where that raises. -/
  readFile : Path → Option (List UInt8)
  /-- The directory of the log is there or can be made, and the log can be opened. -/
  opensLog : Path → Bool

abbrev Files (Path : Type) := Path → Sqlite.File

/-- What `check_arguments` makes sure of. -/
structure Request (Path : Type) where
  key : List Char
  value : ValueText ⊕ Path
  dbFile : Path

def checkArguments (arguments : Arguments Path) : Option (Request Path) :=
  match arguments.key, arguments.value, arguments.valueFile, arguments.dbFile with
  | some key, some text, none, some dbFile => some ⟨key, .inl text, dbFile⟩
  | some key, none, some valueFile, some dbFile => some ⟨key, .inr valueFile, dbFile⟩
  | _, _, _, _ => none

/-- A value of the command line needs no file. -/
def Request.valueFileFound (request : Request Path) (machine : Machine Path) : Bool :=
  match request.value with
  | .inl _ => true
  | .inr path => machine.isFile path

def Request.readValue (request : Request Path) (machine : Machine Path) : Option ValueArgument :=
  match request.value with
  | .inl (.utf8 text) => some (.value text)
  | .inl .surrogates => none
  | .inr path => (machine.readFile path).map .valueFile

def showDb (machine : Machine Path) (dbFile : Option Path) (files : Files Path) :
    Bool × Files Path :=
  match dbFile with
  | none => (false, files)
  | some path =>
      if !(files path).isFile || !machine.hasSqlite3 then (false, files)
      else
        let shell := Sqlite.runShell machine.selecting
          (fun tables ↦ ((tables psmData).isSome, tables)) (files path)
        (shell.1, Function.update files path shell.2)

/-- `create table if not exists psm_data (key integer primary key unique,value)`. -/
def initDb (machine : Machine Path) (path : Path) (files : Files Path) : Bool × Files Path :=
  if !machine.hasSqlite3 then (false, files)
  else
    let shell := Sqlite.runShell machine.creating
      (fun tables ↦ (true, Sqlite.createTable psmData tables)) (files path)
    (shell.1, Function.update files path shell.2)

def prepareDb (machine : Machine Path) (path : Path) (files : Files Path) : Bool × Files Path :=
  if (files path).isFile then (true, files) else initDb machine path files

def checkSqlite3Exists (machine : Machine Path) : Bool :=
  machine.hasSqlite3 && machine.versionWorks

/-- The file handler empties the file that it opens. -/
def openLog (machine : Machine Path) (logFile : Option Path) (files : Files Path) :
    Option (Files Path) :=
  match logFile with
  | none => some files
  | some path =>
      if machine.opensLog path then
        some (Function.update files path (.database Sqlite.noTables))
      else none

/-- The lines in front of the run of the shell, of which the first is written for every value. -/
def writeLog (logFile : Option Path) (files : Files Path) : Files Path :=
  match logFile with
  | none => files
  | some path => Function.update files path .other

/-- `MyApp.main`. -/
def appMain (machine : Machine Path) (key : ℤ) (request : Request Path) (logFile : Option Path)
    (files : Files Path) : Bool × Files Path :=
  match request.readValue machine with
  | none => (false, files)
  | some value =>
      let logged := writeLog logFile files
      let shell := Sqlite.runShell machine.inserting (Sqlite.runLine (inputText key value))
        (logged request.dbFile)
      (shell.1, Function.update logged request.dbFile shell.2)

/-- What follows on the check of the key. -/
def setKey (machine : Machine Path) (key : ℤ) (request : Request Path) (logFile : Option Path)
    (files : Files Path) : Bool × Files Path :=
  if !request.valueFileFound machine then (false, files)
  else
    let prepared := prepareDb machine request.dbFile files
    if !prepared.1 || !checkSqlite3Exists machine then (false, prepared.2)
    else
      match openLog machine logFile prepared.2 with
      | none => (false, prepared.2)
      | some opened => appMain machine key request logFile opened

/-- The script: whether its exit status is zero, and the files afterwards. -/
def main [PythonRelease] (machine : Machine Path) (arguments : Arguments Path)
    (files : Files Path) : Bool × Files Path :=
  if arguments.showKeys then (true, files)
  else if arguments.showDb then showDb machine arguments.dbFile files
  else
    match checkArguments arguments with
    | none => (false, files)
    | some request =>
        match checkKey request.key with
        | none => (false, files)
        | some key => setKey machine key request arguments.logFile files

/-! ## Rows -/

def rowOf (path : Path) (files : Files Path) (key : ℤ) : Option Sqlite.Value :=
  (files path).row psmData key

/-- Files that give the same rows at one path give the same rows everywhere. -/
theorem rowOf_update {changed : Path} {files : Files Path} {file : Sqlite.File}
    (h : ∀ key, file.row psmData key = rowOf changed files key) (path : Path) :
    rowOf path (Function.update files changed file) = rowOf path files := by
  funext key
  by_cases hpath : path = changed
  · subst hpath
    rw [rowOf, Function.update_self, h]
  · rw [rowOf, rowOf, Function.update_of_ne hpath]

theorem rowOf_showDb (machine : Machine Path) (dbFile : Option Path) (files : Files Path)
    (path : Path) : rowOf path (showDb machine dbFile files).2 = rowOf path files := by
  cases dbFile with
  | none => rfl
  | some shown =>
      rw [showDb]
      split_ifs
      · rfl
      · exact rowOf_update (fun key ↦ Sqlite.File.row_runShell (fun _ ↦ rfl) _ _) path

theorem rowOf_prepareDb (machine : Machine Path) (prepared : Path) (files : Files Path)
    (path : Path) : rowOf path (prepareDb machine prepared files).2 = rowOf path files := by
  rw [prepareDb, initDb]
  split_ifs
  · rfl
  · rfl
  · apply rowOf_update
    intro key
    exact Sqlite.File.row_runShell (fun tables ↦ Sqlite.lookup_createTable psmData tables key) _ _

/-- The log leaves every other file. -/
theorem openLog_apply {machine : Machine Path} {logFile : Option Path} {files opened : Files Path}
    {path : Path} (h : openLog machine logFile files = some opened) (hlog : logFile ≠ some path) :
    opened path = files path := by
  cases logFile with
  | none => rw [← Option.some.inj h]
  | some log =>
      rw [openLog] at h
      split_ifs at h
      obtain rfl := Option.some.inj h
      exact Function.update_of_ne (fun heq ↦ hlog (congrArg some heq.symm)) _ _

theorem writeLog_apply {logFile : Option Path} (files : Files Path) {path : Path}
    (hlog : logFile ≠ some path) : writeLog logFile files path = files path := by
  cases logFile with
  | none => rfl
  | some log => exact Function.update_of_ne (fun heq ↦ hlog (congrArg some heq.symm)) _ _

/-! ## What an invocation writes -/

theorem runLine_inputText (key : ℤ) (value : ValueArgument) (tables : Sqlite.Tables) :
    Sqlite.runLine (inputText key value) tables =
      if Sqlite.IsInt64 key then
        ((tables psmData).isSome, ((tables psmData).map fun table ↦
          Function.update tables psmData (some (table.insert key (.blob value.bytes)))).getD tables)
      else (false, tables) := by
  rw [Sqlite.runLine, readLine_inputText]
  change Sqlite.executeAll _ tables = _
  rw [Sqlite.executeAll_singleton, Sqlite.execute_numeral]
  split_ifs
  · rw [Option.isSome_map]
  · rfl

theorem lookup_insert_eq_write (table : Sqlite.Table) (key : ℤ) (value : Sqlite.Value) :
    (fun other ↦ AList.lookup other (table.insert key value)) =
      LastWrite.write (fun other ↦ AList.lookup other table) (key, value) := by
  funext other
  rw [LastWrite.write]
  by_cases h : other = key
  · subst h
    rw [AList.lookup_insert, Function.update_self]
  · rw [AList.lookup_insert_ne h, Function.update_of_ne h]

theorem row_runLine (key : ℤ) (value : ValueArgument) (tables : Sqlite.Tables) :
    (fun other ↦ ((Sqlite.runLine (inputText key value) tables).2 psmData).bind
        (AList.lookup other)) =
      LastWrite.writeAll (fun other ↦ (tables psmData).bind (AList.lookup other))
        (if (Sqlite.runLine (inputText key value) tables).1 then
          [(key, .blob value.bytes)] else []) := by
  rw [runLine_inputText]
  by_cases hkey : Sqlite.IsInt64 key
  · rw [if_pos hkey]
    cases htable : tables psmData with
    | none => simp [htable]
    | some table =>
        simp only [Option.isSome_some, Option.map_some, Option.getD_some, Function.update_self,
          Option.bind_some, if_true]
        exact lookup_insert_eq_write table key _
  · rw [if_neg hkey]
    rfl

/-- The shell stores the value or leaves the rows as they are, and its status tells which. -/
theorem row_insert (condition : Sqlite.Condition) (key : ℤ) (value : ValueArgument)
    (file : Sqlite.File) :
    (Sqlite.runShell condition (Sqlite.runLine (inputText key value)) file).2.row psmData =
      LastWrite.writeAll (file.row psmData)
        (if (Sqlite.runShell condition (Sqlite.runLine (inputText key value)) file).1 then
          [(key, .blob value.bytes)] else []) := by
  cases condition with
  | fails creates =>
      funext other
      exact congrArg (Option.bind · _) (Sqlite.File.table_afterFailure psmData creates file)
  | works =>
      cases file with
      | missing => exact row_runLine key value Sqlite.noTables
      | database tables => exact row_runLine key value tables
      | other => rfl

/-- The value that a request asks for, if it can be read. -/
def Request.entryAt (request : Request Path) (machine : Machine Path) (key : ℤ) :
    List (ℤ × Sqlite.Value) :=
  (request.readValue machine).toList.map fun value ↦ (key, .blob value.bytes)

theorem rowOf_appMain {machine : Machine Path} {key : ℤ} {request : Request Path}
    {logFile : Option Path} (files : Files Path) {path : Path} (hlog : logFile ≠ some path) :
    rowOf path (appMain machine key request logFile files).2 =
      LastWrite.writeAll (rowOf path files)
        (if (appMain machine key request logFile files).1 ∧ request.dbFile = path then
          request.entryAt machine key else []) := by
  rw [appMain, Request.entryAt]
  cases request.readValue machine with
  | none => simp
  | some value =>
      have hlogged := writeLog_apply files hlog
      by_cases hpath : request.dbFile = path
      · subst hpath
        simp only [and_true, Option.toList_some, List.map_singleton]
        have hrow := row_insert machine.inserting key value (writeLog logFile files request.dbFile)
        rw [hlogged] at hrow
        rw [hlogged]
        funext other
        rw [rowOf, Function.update_self]
        exact congrFun hrow other
      · simp only [hpath, and_false, if_false, LastWrite.writeAll_nil]
        funext other
        rw [rowOf, rowOf, Function.update_of_ne (Ne.symm hpath), hlogged]

theorem rowOf_setKey {machine : Machine Path} {key : ℤ} {request : Request Path}
    {logFile : Option Path} (files : Files Path) {path : Path} (hlog : logFile ≠ some path) :
    rowOf path (setKey machine key request logFile files).2 =
      LastWrite.writeAll (rowOf path files)
        (if (setKey machine key request logFile files).1 ∧ request.dbFile = path then
          request.entryAt machine key else []) := by
  have hfailed {other : Files Path} (h : rowOf path other = rowOf path files) :
      rowOf path (false, other).2 = LastWrite.writeAll (rowOf path files)
        (if (false, other).1 = true ∧ request.dbFile = path then
          request.entryAt machine key else []) := by
    simpa using h
  have hprepared := rowOf_prepareDb machine request.dbFile files path
  by_cases hfound : (!request.valueFileFound machine) = true
  · rw [setKey, if_pos hfound]
    exact hfailed rfl
  by_cases hready : (!(prepareDb machine request.dbFile files).1 ||
      !checkSqlite3Exists machine) = true
  · rw [setKey, if_neg hfound]
    simp only [hready, if_true]
    exact hfailed hprepared
  · rw [setKey, if_neg hfound]
    simp only [hready]
    cases hopen : openLog machine logFile (prepareDb machine request.dbFile files).2 with
    | none => exact hfailed hprepared
    | some opened =>
        have hopened : rowOf path opened = rowOf path files := by
          rw [← hprepared]
          funext other
          rw [rowOf, rowOf, openLog_apply hopen hlog]
        rw [← hopened]
        exact rowOf_appMain opened hlog

/-- One invocation and whether its exit status was zero. -/
structure Invocation (Path : Type) where
  machine : Machine Path
  arguments : Arguments Path
  succeeded : Bool

section

variable [PythonRelease]

/-- An invocation ends with the status that it ends with. -/
def step (files : Files Path) (invocation : Invocation Path) : Option (Files Path) :=
  if (main invocation.machine invocation.arguments files).1 = invocation.succeeded then
    some (main invocation.machine invocation.arguments files).2
  else none

/-- The value that a request asks for, under the key that it names. -/
def Request.entries (request : Request Path) (machine : Machine Path) :
    List (ℤ × Sqlite.Value) :=
  (checkKey request.key).toList.flatMap (request.entryAt machine)

/-- What an invocation is to write to a database: what its arguments say, if it succeeds. -/
def Invocation.entries (path : Path) (invocation : Invocation Path) :
    List (ℤ × Sqlite.Value) :=
  if invocation.arguments.showKeys || invocation.arguments.showDb || !invocation.succeeded then []
  else
    match checkArguments invocation.arguments with
    | some request => if request.dbFile = path then request.entries invocation.machine else []
    | none => []

/-- An invocation changes the rows by what it is to write. -/
theorem rowOf_step {path : Path} {files after : Files Path} {invocation : Invocation Path}
    (hlog : invocation.arguments.logFile ≠ some path)
    (hstep : step files invocation = some after) :
    rowOf path after = LastWrite.writeAll (rowOf path files) (invocation.entries path) := by
  obtain ⟨machine, arguments, succeeded⟩ := invocation
  rw [step] at hstep
  split_ifs at hstep with hstatus
  obtain rfl := Option.some.inj hstep
  dsimp only at hlog hstatus ⊢
  rw [Invocation.entries]
  rw [main] at hstatus ⊢
  by_cases hkeys : arguments.showKeys = true
  · simp [hkeys]
  by_cases hshow : arguments.showDb = true
  · simp only [hkeys, hshow, if_true, if_false, Bool.or_true, Bool.true_or,
      Bool.false_eq_true, LastWrite.writeAll_nil]
    exact rowOf_showDb machine arguments.dbFile files path
  simp only [hkeys, hshow, if_false, Bool.false_or, Bool.false_eq_true] at hstatus ⊢
  cases hrequest : checkArguments arguments with
  | none => simp
  | some request =>
      simp only [hrequest] at hstatus ⊢
      rw [Request.entries]
      cases hkey : checkKey request.key with
      | none => simp
      | some key =>
          simp only [hkey] at hstatus ⊢
          rw [rowOf_setKey files hlog, hstatus]
          simp only [Option.toList_some, List.flatMap_singleton]
          cases succeeded <;> simp

end

end EdgeDeviceCore.Psm
