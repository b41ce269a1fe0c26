import EdgeDeviceCore.Psm.KeySpelling
import EdgeDeviceCore.Psm.UpdateTool

/-!
# Parameters over many invocations

The parameter database keeps, for each key, the value of the last invocation that succeeded, however
many invocations failed in between. On a machine where everything outside the script works, the
settings that the documentation asks for succeed one after another.
-/

open EdgeDeviceCore.Data
open EdgeDeviceCore.Platform
open EdgeDeviceCore.Semantics

namespace EdgeDeviceCore.Psm

variable {Path : Type} [DecidableEq Path]

/-! ## Databases that can be written -/

/-- A database with the table of the parameters. -/
def HasTable (file : Sqlite.File) : Prop :=
  ∃ tables, file = .database tables ∧ (tables psmData).isSome

/-- A database that can be written: there is none yet, or it has the table. -/
def Writable (file : Sqlite.File) : Prop :=
  file = .missing ∨ HasTable file

/-- The database is there and has its table when a value is to be stored. -/
theorem hasTable_prepareDb {machine : Machine Path} {path : Path} {files : Files Path}
    (hsqlite3 : machine.hasSqlite3 = true) (hcreates : machine.creating = .works)
    (h : Writable (files path)) :
    (prepareDb machine path files).1 = true ∧
      HasTable ((prepareDb machine path files).2 path) := by
  rw [prepareDb, initDb]
  rcases h with hmissing | htable
  · rw [hmissing, hsqlite3, hcreates]
    refine ⟨rfl, Sqlite.createTable psmData Sqlite.noTables, Function.update_self .., ?_⟩
    obtain ⟨table, hcreated, -⟩ := Sqlite.createTable_self psmData Sqlite.noTables
    rw [hcreated]
    rfl
  · have hfile : (files path).isFile = true := by
      obtain ⟨tables, hfile, -⟩ := htable
      rw [hfile]
      rfl
    rw [if_pos hfile]
    exact ⟨rfl, htable⟩

/-- A key of 64 bits is stored in a database with the table, and the table stays. -/
theorem hasTable_insert {key : ℤ} (hkey : Sqlite.IsInt64 key) (value : ValueArgument)
    {file : Sqlite.File} (h : HasTable file) :
    (Sqlite.runShell .works (Sqlite.runLine (inputText key value)) file).1 = true ∧
      HasTable (Sqlite.runShell .works (Sqlite.runLine (inputText key value)) file).2 := by
  obtain ⟨tables, rfl, htable⟩ := h
  obtain ⟨table, htable⟩ := Option.isSome_iff_exists.mp htable
  have hline := runLine_inputText key value tables
  rw [if_pos hkey, htable] at hline
  constructor
  · exact congrArg Prod.fst hline
  · refine ⟨(Sqlite.runLine (inputText key value) tables).2, rfl, ?_⟩
    rw [hline]
    change (Function.update tables psmData _ psmData).isSome = true
    rw [Function.update_self]
    rfl

/-- The shell stores a value exactly if it works, the key fits in 64 bits and the table is there. -/
theorem insert_succeeds_iff {condition : Sqlite.Condition} {key : ℤ} {value : ValueArgument}
    {file : Sqlite.File} (hfile : file.isFile = true) :
    (Sqlite.runShell condition (Sqlite.runLine (inputText key value)) file).1 = true ↔
      condition = .works ∧ Sqlite.IsInt64 key ∧ HasTable file := by
  constructor
  · intro h
    cases condition with
    | fails creates => exact absurd h Bool.false_ne_true
    | works =>
        cases file with
        | missing => exact absurd hfile Bool.false_ne_true
        | other => exact absurd h Bool.false_ne_true
        | database tables =>
            change (Sqlite.runLine (inputText key value) tables).1 = true at h
            rw [runLine_inputText] at h
            split_ifs at h with hkey
            exact ⟨rfl, hkey, tables, rfl, h⟩
  · rintro ⟨rfl, hkey, htable⟩
    exact (hasTable_insert hkey value htable).1

theorem prepareDb_succeeds_iff {machine : Machine Path} {path : Path} {files : Files Path} :
    (prepareDb machine path files).1 = true ∧ HasTable ((prepareDb machine path files).2 path) ↔
      HasTable (files path) ∨
        files path = .missing ∧ machine.hasSqlite3 = true ∧ machine.creating = .works := by
  constructor
  · rintro ⟨hprepared, htable⟩
    rw [prepareDb] at hprepared htable
    by_cases hfile : (files path).isFile = true
    · rw [if_pos hfile] at htable
      exact .inl htable
    · rw [if_neg hfile, initDb] at hprepared
      split_ifs at hprepared with hsqlite3
      cases hcreates : machine.creating with
      | fails creates =>
          rw [hcreates] at hprepared
          exact absurd hprepared Bool.false_ne_true
      | works =>
          cases hmissing : files path with
          | missing => exact .inr ⟨rfl, by simpa using hsqlite3, rfl⟩
          | database tables => exact absurd (congrArg Sqlite.File.isFile hmissing) hfile
          | other => exact absurd (congrArg Sqlite.File.isFile hmissing) hfile
  · rintro (htable | ⟨hmissing, hsqlite3, hcreates⟩)
    · have hfile : (files path).isFile = true := by
        obtain ⟨tables, hfile, -⟩ := htable
        rw [hfile]
        rfl
      rw [prepareDb, if_pos hfile]
      exact ⟨rfl, htable⟩
    · exact hasTable_prepareDb hsqlite3 hcreates (.inl hmissing)

/-- A database that has been prepared is a file. -/
theorem isFile_prepareDb {machine : Machine Path} {path : Path} {files : Files Path}
    (h : (prepareDb machine path files).1 = true) :
    ((prepareDb machine path files).2 path).isFile = true := by
  rw [prepareDb] at h ⊢
  split_ifs with hfile
  · exact hfile
  · rw [if_neg hfile, initDb] at h
    rw [initDb]
    split_ifs at h ⊢ with hsqlite3
    dsimp only
    rw [Function.update_self]
    cases hcreates : machine.creating with
    | fails creates =>
        rw [hcreates] at h
        exact absurd h Bool.false_ne_true
    | works =>
        cases hmissing : files path with
        | missing => rfl
        | database tables => rfl
        | other => rfl

/-! ## Exit statuses -/

/-- What storing a value takes. -/
structure Stores (machine : Machine Path) (key : ℤ) (request : Request Path)
    (logFile : Option Path) (files : Files Path) : Prop where
  found : request.valueFileFound machine = true
  reads : (request.readValue machine).isSome = true
  sqlite3 : checkSqlite3Exists machine = true
  inserts : machine.inserting = .works
  fits : Sqlite.IsInt64 key
  /-- The log can be opened, and is not the database. -/
  log : ∀ log, logFile = some log → machine.opensLog log = true ∧ log ≠ request.dbFile
  /-- A database without the table is not prepared, one that is missing is. -/
  db : HasTable (files request.dbFile) ∨
    files request.dbFile = .missing ∧ machine.creating = .works

/-- A log that is the database ends it before the value is stored. -/
theorem appMain_succeeds_iff {machine : Machine Path} {key : ℤ} {request : Request Path}
    {logFile : Option Path} {files : Files Path}
    (hfile : (files request.dbFile).isFile = true) :
    (appMain machine key request logFile files).1 = true ↔
      (request.readValue machine).isSome = true ∧ logFile ≠ some request.dbFile ∧
        machine.inserting = .works ∧ Sqlite.IsInt64 key ∧ HasTable (files request.dbFile) := by
  rw [appMain]
  cases request.readValue machine with
  | none => simp
  | some value =>
      simp only [Option.isSome_some, true_and]
      by_cases hlog : logFile = some request.dbFile
      · have hother : writeLog logFile files request.dbFile = .other := by
          rw [hlog]
          exact Function.update_self ..
        rw [hother, insert_succeeds_iff rfl]
        constructor
        · rintro ⟨-, -, tables, hdatabase, -⟩
          cases hdatabase
        · exact fun h ↦ absurd hlog h.1
      · rw [writeLog_apply files hlog, insert_succeeds_iff hfile]
        simp [hlog]

theorem openLog_eq_some_iff {machine : Machine Path} {logFile : Option Path}
    {files : Files Path} :
    (∃ opened, openLog machine logFile files = some opened) ↔
      ∀ log, logFile = some log → machine.opensLog log = true := by
  cases logFile with
  | none => simp [openLog]
  | some log => simp [openLog]

theorem isFile_openLog {machine : Machine Path} {logFile : Option Path} {files opened : Files Path}
    {path : Path} (h : openLog machine logFile files = some opened)
    (hfile : (files path).isFile = true) : (opened path).isFile = true := by
  by_cases hlog : logFile = some path
  · rw [hlog, openLog] at h
    split_ifs at h
    obtain rfl := Option.some.inj h
    rw [Function.update_self]
    rfl
  · rwa [openLog_apply h hlog]

omit [DecidableEq Path] in
theorem hasSqlite3_of_check {machine : Machine Path} (h : checkSqlite3Exists machine = true) :
    machine.hasSqlite3 = true := by
  rw [checkSqlite3Exists, Bool.and_eq_true] at h
  exact h.1

/-- With all it takes, the value is stored in a database that has its table. -/
theorem Stores.setKey_eq {machine : Machine Path} {key : ℤ} {request : Request Path}
    {logFile : Option Path} {files : Files Path} (h : Stores machine key request logFile files) :
    ∃ opened, setKey machine key request logFile files =
        appMain machine key request logFile opened ∧ HasTable (opened request.dbFile) := by
  have hdb := h.db.imp_right fun hmissing ↦
    And.intro hmissing.1 (And.intro (hasSqlite3_of_check h.sqlite3) hmissing.2)
  obtain ⟨hprepared, htable⟩ := prepareDb_succeeds_iff.mpr hdb
  have hopens : ∃ opened, openLog machine logFile (prepareDb machine request.dbFile files).2 =
      some opened :=
    openLog_eq_some_iff.mpr fun log hlog ↦ (h.log log hlog).1
  obtain ⟨opened, hopen⟩ := hopens
  refine ⟨opened, ?_, ?_⟩
  · rw [setKey, h.found]
    simp only [hprepared, h.sqlite3, Bool.not_true, Bool.or_false, Bool.false_eq_true,
      if_false, hopen]
  · rwa [openLog_apply hopen fun hlog ↦ (h.log _ hlog).2 rfl]

theorem Stores.hasTable_appMain {machine : Machine Path} {key : ℤ} {request : Request Path}
    {logFile : Option Path} {files opened : Files Path}
    (h : Stores machine key request logFile files) (htable : HasTable (opened request.dbFile)) :
    (appMain machine key request logFile opened).1 = true ∧
      HasTable ((appMain machine key request logFile opened).2 request.dbFile) := by
  obtain ⟨value, hvalue⟩ := Option.isSome_iff_exists.mp h.reads
  rw [appMain, hvalue]
  dsimp only
  rw [writeLog_apply opened fun hlog ↦ (h.log _ hlog).2 rfl, Function.update_self, h.inserts]
  exact hasTable_insert h.fits value htable

theorem setKey_succeeds_iff {machine : Machine Path} {key : ℤ} {request : Request Path}
    {logFile : Option Path} {files : Files Path} :
    (setKey machine key request logFile files).1 = true ↔
      Stores machine key request logFile files := by
  constructor
  · intro h
    rw [setKey] at h
    split_ifs at h with hfound
    dsimp only at h
    split_ifs at h with hready
    simp only [Bool.or_eq_true, Bool.not_eq_true', not_or, Bool.not_eq_false] at hfound hready
    cases hopen : openLog machine logFile (prepareDb machine request.dbFile files).2 with
    | none =>
        rw [hopen] at h
        exact absurd h Bool.false_ne_true
    | some opened =>
        rw [hopen] at h
        obtain ⟨hreads, hlog, hinserts, hfits, htable⟩ :=
          (appMain_succeeds_iff (isFile_openLog hopen (isFile_prepareDb hready.1))).mp h
        rw [openLog_apply hopen hlog] at htable
        have hdb := prepareDb_succeeds_iff.mp ⟨hready.1, htable⟩
        exact {
          found := hfound
          reads := hreads
          sqlite3 := hready.2
          inserts := hinserts
          fits := hfits
          log := fun log heq ↦ ⟨openLog_eq_some_iff.mp ⟨opened, hopen⟩ log heq,
            fun hdbFile ↦ hlog (hdbFile ▸ heq)⟩
          db := hdb.imp_right fun hmissing ↦ ⟨hmissing.1, hmissing.2.2⟩ }
  · intro h
    obtain ⟨opened, hset, htable⟩ := h.setKey_eq
    rw [hset]
    exact (h.hasTable_appMain htable).1

section

variable [PythonRelease]

/-- An invocation that is to set a parameter succeeds exactly if its key is accepted and all that
storing takes is there. -/
theorem main_succeeds_iff {machine : Machine Path} {arguments : Arguments Path}
    {files : Files Path} (hkeys : arguments.showKeys = false) (hshow : arguments.showDb = false) :
    (main machine arguments files).1 = true ↔
      ∃ request key, checkArguments arguments = some request ∧ checkKey request.key = some key ∧
        Stores machine key request arguments.logFile files := by
  rw [main, hkeys, hshow]
  simp only [Bool.false_eq_true, if_false]
  cases checkArguments arguments with
  | none => simp
  | some request =>
      simp only [Option.some.injEq, exists_eq_left', exists_and_left]
      cases checkKey request.key with
      | none => simp
      | some key =>
          simp only [Option.some.injEq, exists_eq_left']
          exact setKey_succeeds_iff

/-! ## Any invocations -/

theorem rowOf_run {path : Path} {files after : Files Path} {invocations : List (Invocation Path)}
    (hlog : ∀ invocation ∈ invocations, invocation.arguments.logFile ≠ some path)
    (hrun : TransitionRun.run step files invocations = some after) :
    rowOf path after =
      LastWrite.writeAll (rowOf path files) (invocations.flatMap (Invocation.entries path)) :=
  LastWrite.view_run (rowOf path) (Invocation.entries path)
    (fun invocation ↦ invocation.arguments.logFile ≠ some path)
    (fun _ _ _ hallowed hstep ↦ rowOf_step hallowed hstep) hlog hrun

/-- After any run of the script, a key has the value of the last invocation that was told to set it
and succeeded, and its former value if there was none. -/
theorem lastValue_run {path : Path} {files after : Files Path}
    {invocations : List (Invocation Path)}
    (hlog : ∀ invocation ∈ invocations, invocation.arguments.logFile ≠ some path)
    (hrun : TransitionRun.run step files invocations = some after) (key : ℤ) :
    rowOf path after key =
      (LastWrite.last key (invocations.flatMap (Invocation.entries path))).or
        (rowOf path files key) := by
  rw [rowOf_run hlog hrun, LastWrite.writeAll_apply]

/-! ## Settings -/

/-- A documented request on a machine where everything outside the script works. -/
structure Setting (Path : Type) [DecidableEq Path] [PythonRelease] where
  machine : Machine Path
  arguments : Arguments Path
  request : Request Path
  index : ℕ
  value : ValueArgument
  sets : arguments.showKeys = false ∧ arguments.showDb = false
  checked : checkArguments arguments = some request
  documented : Documented IndexSpelling.anyInt request.key index
  found : request.valueFileFound machine = true
  reads : request.readValue machine = some value
  sqlite3 : checkSqlite3Exists machine = true
  creates : machine.creating = .works
  inserts : machine.inserting = .works
  opens : ∀ log, arguments.logFile = some log → machine.opensLog log = true
  sparesDb : arguments.logFile ≠ some request.dbFile

namespace Setting

/-- The invocation of a setting, and that it succeeds. -/
def invocation (setting : Setting Path) : Invocation Path :=
  ⟨setting.machine, setting.arguments, true⟩

def entry (setting : Setting Path) : ℤ × Sqlite.Value :=
  (setting.index, .blob setting.value.bytes)

theorem checkKey_eq (setting : Setting Path) :
    checkKey setting.request.key = some (setting.index : ℤ) :=
  checkKey_of_documented setting.documented

theorem index_lt (setting : Setting Path) : setting.index < keyList.length :=
  setting.documented.elim NamesKey.lt And.left

theorem entries_invocation (setting : Setting Path) :
    setting.invocation.entries setting.request.dbFile = [setting.entry] := by
  rw [Invocation.entries, invocation]
  simp only [setting.sets.1, setting.sets.2, setting.checked, Bool.or_false, Bool.not_true,
    Bool.false_eq_true, if_false, if_true]
  rw [Request.entries, setting.checkKey_eq, Option.toList_some, List.flatMap_singleton,
    Request.entryAt, setting.reads]
  rfl

theorem spares (setting : Setting Path) {path : Path} (h : setting.request.dbFile = path) :
    setting.invocation.arguments.logFile ≠ some path :=
  h ▸ setting.sparesDb

theorem stores (setting : Setting Path) {files : Files Path}
    (h : Writable (files setting.request.dbFile)) :
    Stores setting.machine setting.index setting.request setting.arguments.logFile files where
  found := setting.found
  reads := Option.isSome_of_eq_some setting.reads
  sqlite3 := setting.sqlite3
  inserts := setting.inserts
  fits := isInt64_of_listed setting.index_lt
  log log hlog := ⟨setting.opens log hlog, fun heq ↦ setting.sparesDb (heq ▸ hlog)⟩
  db := h.symm.imp_right fun hmissing ↦ ⟨hmissing, setting.creates⟩

theorem main_works (setting : Setting Path) {files : Files Path}
    (h : Writable (files setting.request.dbFile)) :
    (main setting.machine setting.arguments files).1 = true ∧
      HasTable ((main setting.machine setting.arguments files).2 setting.request.dbFile) := by
  have hstores := setting.stores h
  obtain ⟨opened, hset, htable⟩ := hstores.setKey_eq
  have hmain : main setting.machine setting.arguments files =
      appMain setting.machine setting.index setting.request setting.arguments.logFile opened := by
    rw [main, setting.sets.1, setting.sets.2, setting.checked]
    simp only [Bool.false_eq_true, if_false, setting.checkKey_eq]
    exact hset
  rw [hmain]
  exact hstores.hasTable_appMain htable

theorem step_works (setting : Setting Path) {files : Files Path}
    (h : Writable (files setting.request.dbFile)) :
    ∃ after, step files setting.invocation = some after ∧
      HasTable (after setting.request.dbFile) := by
  obtain ⟨hstatus, htable⟩ := setting.main_works h
  exact ⟨_, if_pos hstatus, htable⟩

end Setting

/-- Settings of one database all succeed, one after another. -/
theorem run_settings {path : Path} {files : Files Path} (hfiles : Writable (files path))
    (settings : List (Setting Path)) (hpath : ∀ setting ∈ settings, setting.request.dbFile = path) :
    ∃ after, TransitionRun.run step files (settings.map Setting.invocation) = some after ∧
      Writable (after path) := by
  induction settings using List.reverseRecOn with
  | nil => exact ⟨files, rfl, hfiles⟩
  | append_singleton settings setting ih =>
      obtain ⟨middle, hmiddle, hwritable⟩ :=
        ih fun setting hmem ↦ hpath setting (List.mem_append_left _ hmem)
      have hdbFile : setting.request.dbFile = path := hpath setting (by simp)
      obtain ⟨after, hstep, htable⟩ := setting.step_works (hdbFile.symm ▸ hwritable)
      refine ⟨after, ?_, .inr (hdbFile ▸ htable)⟩
      rw [List.map_append, List.map_singleton, TransitionRun.run_concat]
      exact ⟨middle, hmiddle, hstep⟩

theorem entries_settings {path : Path} {settings : List (Setting Path)}
    (hpath : ∀ setting ∈ settings, setting.request.dbFile = path) :
    (settings.map Setting.invocation).flatMap (Invocation.entries path) =
      settings.map Setting.entry := by
  induction settings with
  | nil => rfl
  | cons setting settings ih =>
      have hdbFile : setting.request.dbFile = path := hpath setting (List.mem_cons_self ..)
      rw [List.map_cons, List.flatMap_cons, ← hdbFile, setting.entries_invocation, hdbFile,
        ih fun setting hmem ↦ hpath setting (List.mem_cons_of_mem _ hmem)]
      rfl

/-- Documented settings succeed one after another, under any of the spellings of their keys, and
leave every key with the last value that it was set to. -/
theorem settings_stored {path : Path} {files : Files Path} (hfiles : Writable (files path))
    (settings : List (Setting Path)) (hpath : ∀ setting ∈ settings, setting.request.dbFile = path) :
    ∃ after, TransitionRun.run step files (settings.map Setting.invocation) = some after ∧
      ∀ key, rowOf path after key =
        (LastWrite.last key (settings.map Setting.entry)).or (rowOf path files key) := by
  obtain ⟨after, hrun, -⟩ := run_settings hfiles settings hpath
  refine ⟨after, hrun, fun key ↦ ?_⟩
  have hlog : ∀ invocation ∈ settings.map Setting.invocation,
      invocation.arguments.logFile ≠ some path := by
    intro invocation hmem
    obtain ⟨setting, hsetting, rfl⟩ := List.mem_map.mp hmem
    exact setting.spares (hpath setting hsetting)
  rw [rowOf_run hlog hrun, LastWrite.writeAll_apply, entries_settings hpath]

end

/-! ## A hub address -/

section

attribute [local instance] asciiRelease

/-- A machine where everything works and no value comes from a file. -/
def workingMachine : Machine ℕ where
  hasSqlite3 := true
  versionWorks := true
  creating := .works
  inserting := .works
  selecting := .works
  isFile _ := false
  readFile _ := none
  opensLog _ := true

/-- `--key EvpHubURL --value 127.0.0.1` for the first database, with a log. -/
def hubUrlArguments : Arguments ℕ where
  key := some "EvpHubURL".toList
  value := some (.utf8 "127.0.0.1")
  valueFile := none
  dbFile := some 0
  showDb := false
  showKeys := false
  logFile := some 1

def noFiles : Files ℕ := fun _ ↦ .missing

theorem writable_noFiles : Writable (noFiles 0) := .inl rfl

/-- The setting of the hub address. -/
theorem exists_hubUrlSetting : ∃ setting : Setting ℕ,
    setting.request.dbFile = 0 ∧ setting.index = 30 ∧ setting.value = .value "127.0.0.1" :=
  ⟨{ machine := workingMachine
     arguments := hubUrlArguments
     request := ⟨"EvpHubURL".toList, .inl (.utf8 "127.0.0.1"), 0⟩
     index := 30
     value := .value "127.0.0.1"
     sets := ⟨rfl, rfl⟩
     checked := rfl
     documented := .inl namesKey_hubUrl
     found := rfl
     reads := rfl
     sqlite3 := rfl
     creates := rfl
     inserts := rfl
     opens := fun _ _ ↦ rfl
     sparesDb := by decide }, rfl, rfl, rfl⟩

/-- Without a database, setting the hub address stores it. -/
theorem settings_stored_hubUrl : ∃ (setting : Setting ℕ) (after : Files ℕ),
    TransitionRun.run step noFiles [setting.invocation] = some after ∧
      rowOf 0 after 30 = some (.blob (ValueArgument.value "127.0.0.1").bytes) := by
  obtain ⟨setting, hdbFile, hindex, hvalue⟩ := exists_hubUrlSetting
  have hpath : ∀ other ∈ [setting], other.request.dbFile = 0 := by simpa using hdbFile
  obtain ⟨after, hrun, hrows⟩ :=
    settings_stored writable_noFiles [setting] hpath
  refine ⟨setting, after, hrun, (hrows 30).trans ?_⟩
  simp [LastWrite.last, Setting.entry, hindex, hvalue]

/-- The same by what the invocations were told. -/
theorem lastValue_run_hubUrl : ∃ (setting : Setting ℕ) (after : Files ℕ),
    TransitionRun.run step noFiles [setting.invocation] = some after ∧
      rowOf 0 after 30 = some (.blob (ValueArgument.value "127.0.0.1").bytes) := by
  obtain ⟨setting, hdbFile, hindex, hvalue⟩ := exists_hubUrlSetting
  have hpath : ∀ other ∈ [setting], other.request.dbFile = 0 := by simpa using hdbFile
  obtain ⟨after, hrun, -⟩ :=
    run_settings writable_noFiles [setting] hpath
  have hlog : ∀ invocation ∈ [setting].map Setting.invocation,
      invocation.arguments.logFile ≠ some 0 := by
    intro invocation hmem
    obtain rfl := List.mem_singleton.mp hmem
    exact setting.spares hdbFile
  refine ⟨setting, after, hrun, (lastValue_run hlog hrun 30).trans ?_⟩
  rw [entries_settings hpath]
  simp [LastWrite.last, Setting.entry, hindex, hvalue]

/-- The log in the place of the database: nothing is stored. -/
theorem main_succeeds_iff_logIsDb :
    (main workingMachine { hubUrlArguments with logFile := some 0 }
      noFiles).1 ≠ true := by
  intro h
  obtain ⟨request, key, hrequest, -, hstores⟩ :=
    (main_succeeds_iff rfl rfl).mp h
  obtain rfl := Option.some.inj hrequest
  exact (hstores.log 0 rfl).2 rfl

end

end EdgeDeviceCore.Psm
