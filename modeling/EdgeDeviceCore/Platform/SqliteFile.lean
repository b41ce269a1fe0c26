import EdgeDeviceCore.Platform.Sqlite

/-!
# Database files of `sqlite3`

Tables with an integer primary key and one more column, what the statements do to them, and one run
of the `sqlite3` shell on a file. A row is replaced as a whole, a key that is no integer is a
mismatch, and a statement that fails changes nothing.
-/

namespace EdgeDeviceCore.Platform.Sqlite

/-- The rows of a table by their key. No two rows have the same key. -/
abbrev Table := AList fun _ : ℤ ↦ Value

abbrev Tables := List Char → Option Table

def noTables : Tables := fun _ ↦ none

/-- `create table if not exists`. -/
def createTable (name : List Char) (tables : Tables) : Tables :=
  if (tables name).isSome then tables else Function.update tables name (some ∅)

/-- One statement, or `none` where it ends with an error. -/
def execute : Statement → Tables → Option Tables
  | .insertOrReplace name [.integer key, value], tables =>
      (tables name).map fun table ↦ Function.update tables name (some (table.insert key value))
  | .insertOrReplace _ _, _ => none

/-- One more statement of an input, whether those before it failed or not. -/
def executeNext (reached : Bool × Tables) (statement : Statement) : Bool × Tables :=
  match execute statement reached.2 with
  | some after => (reached.1, after)
  | none => (false, reached.2)

/-- All statements of an input, and whether none of them failed. -/
def executeAll (statements : List Statement) (tables : Tables) : Bool × Tables :=
  statements.foldl executeNext (true, tables)

/-! ## Files -/

inductive File where
  | missing
  /-- An empty file is a database without tables. -/
  | database (tables : Tables)
  /-- A file that is not empty and no database. -/
  | other

/-- The tables that the shell finds in a file, if it takes the file for a database. -/
def File.tables : File → Option Tables
  | .missing => some noTables
  | .database tables => some tables
  | .other => none

def File.isFile : File → Bool
  | .missing => false
  | .database _ | .other => true

def File.table (name : List Char) (file : File) : Option Table :=
  file.tables.bind (· name)

/-- The value in the row of a key. -/
def File.row (name : List Char) (file : File) (key : ℤ) : Option Value :=
  (file.table name).bind (AList.lookup key)

/-- Whether the shell can do its work, for instance whether it can write to the disk and nobody
else holds a lock. A shell that fails is taken to have committed nothing: it is not killed between
the commit and its exit. -/
inductive Condition where
  | works
  /-- The shell may create the file before it fails. -/
  | fails (creates : Bool)
  deriving DecidableEq

/-- A file after a run of the shell that failed before the first statement. -/
def File.afterFailure (creates : Bool) : File → File
  | .missing => if creates then .database noTables else .missing
  | file => file

/-- A run of the shell on a file: whether its exit status is zero, and the file afterwards. -/
def runShell (condition : Condition) (work : Tables → Bool × Tables) (file : File) : Bool × File :=
  match condition, file.tables with
  | .works, some tables => ((work tables).1, .database (work tables).2)
  | .works, none => (false, file)
  | .fails creates, _ => (false, file.afterFailure creates)

/-- The work of a line of SQL. A line that is not read is an error. -/
def runLine (line : List Char) (tables : Tables) : Bool × Tables :=
  match readLine line with
  | some statements => executeAll statements tables
  | none => (false, tables)

/-! ## Rows -/

theorem File.table_afterFailure (name : List Char) (creates : Bool) (file : File) :
    (file.afterFailure creates).table name = file.table name := by
  cases file with
  | missing => cases creates <;> rfl
  | database tables => rfl
  | other => rfl

theorem createTable_self (name : List Char) (tables : Tables) :
    ∃ table, createTable name tables name = some table ∧
      table = (tables name).getD ∅ := by
  rw [createTable]
  cases h : tables name with
  | some table => exact ⟨table, by simp [h], rfl⟩
  | none => exact ⟨∅, by simp, rfl⟩

/-- A new table has no rows, and an old one keeps its rows. -/
theorem lookup_createTable (name : List Char) (tables : Tables) (key : ℤ) :
    (createTable name tables name).bind (AList.lookup key) =
      (tables name).bind (AList.lookup key) := by
  rw [createTable]
  cases h : tables name with
  | some table => simp [h]
  | none => simp

/-- A run of the shell keeps the rows of a table that its work keeps. -/
theorem File.row_runShell {name : List Char} {key : ℤ} {work : Tables → Bool × Tables}
    (hwork : ∀ tables, ((work tables).2 name).bind (AList.lookup key) =
      (tables name).bind (AList.lookup key)) (condition : Condition) (file : File) :
    (runShell condition work file).2.row name key = file.row name key := by
  cases condition with
  | works =>
      cases file with
      | missing => exact hwork noTables
      | database tables => exact hwork tables
      | other => rfl
  | fails creates => exact congrArg (Option.bind · _) (File.table_afterFailure name creates file)

/-- An input that is one statement does what the statement does. -/
theorem executeAll_singleton (statement : Statement) (tables : Tables) :
    executeAll [statement] tables =
      ((execute statement tables).isSome, (execute statement tables).getD tables) := by
  rw [executeAll, List.foldl_cons, List.foldl_nil, executeNext]
  cases execute statement tables with
  | some after => rfl
  | none => rfl

/-- Whatever is not an integer is no primary key. -/
theorem execute_numeral (name : List Char) (key : ℤ) (value : Value) (tables : Tables) :
    execute (.insertOrReplace name [numeral key, value]) tables =
      if IsInt64 key then
        (tables name).map fun table ↦ Function.update tables name (some (table.insert key value))
      else none := by
  rw [numeral]
  split_ifs
  · rfl
  · rfl

end EdgeDeviceCore.Platform.Sqlite
