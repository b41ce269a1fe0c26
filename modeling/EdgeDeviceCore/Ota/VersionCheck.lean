import EdgeDeviceCore.Ota.Script

/-!
# The version check

The script reads the current version with `grep` and `awk` in a command substitution. Under
`pipefail` the substitution has the status of `grep`, and under `set -e` an assignment with a status
other than zero ends the script. So a version file without a version line ends every update that
is not forced.
-/

open EdgeDeviceCore.Semantics

namespace EdgeDeviceCore.Ota

/-! ## Reading the version file -/

/-- What `grep` takes for binary data, and what it prints of it if it finds a match there. -/
class BinaryFiles where
  isBinary : List Char → Bool
  matched : List Char → Option (List Char)

/-- Every line is ended by a newline. -/
def unlines (lines : List (List Char)) : List Char := lines.flatMap (· ++ ['\n'])

/-- The lines that start with a text. -/
def linesStarting (start content : List Char) : List (List Char) :=
  (content.splitOn '\n').filter (start.isPrefixOf ·)

/-- `grep` for a text at the start of a line: what it prints, with a status of zero, or a status of
one. -/
def grepStart (start content : List Char) : Option (List Char) :=
  if linesStarting start content = [] then none else some (unlines (linesStarting start content))

/-- `grep '^Version:'`. -/
def grepVersion [BinaryFiles] (content : List Char) : Option (List Char) :=
  if BinaryFiles.isBinary content then BinaryFiles.matched content
  else grepStart "Version:".toList content

/-- The fields of a line for `awk`. -/
def awkFields (line : List Char) : List (List Char) :=
  (line.splitOnP fun character ↦ character = ' ' || character = '\t').filter (· ≠ [])

/-- `awk '\x7bprint $2\x7d'`; the text behind the last newline is a line if it is not empty. -/
def awkSecond (text : List Char) : List Char :=
  let lines := text.splitOn '\n'
  let records := if lines.getLast? = some [] then lines.dropLast else lines
  records.flatMap fun line ↦ (awkFields line)[1]?.getD [] ++ ['\n']

/-- What the version check makes of the content of `version_edc.txt`. -/
def VersionFile.ofContent [BinaryFiles] (content : List Char) : VersionFile :=
  match grepVersion content with
  | some printed => .stating (substituted (String.ofList (awkSecond printed)))
  | none => .damaged

/-- A line of the file states a version; for binary data `grep` finds one. -/
def StatesVersion [BinaryFiles] (content : List Char) : Prop :=
  if BinaryFiles.isBinary content then (BinaryFiles.matched content).isSome = true
  else ∃ line ∈ content.splitOn '\n', "Version:".toList <+: line

/-- A file system with the content of the current version file, if there is one. -/
structure VersionedSystem [BinaryFiles] where
  fs : FileSystem
  content : Option (List Char)
  currentVersionFile_eq : fs.currentVersionFile = content.map VersionFile.ofContent

/-- An update without `--force` whose package has a version. -/
structure CheckedUpdate where
  inputs : UpdateInputs
  forceUpdate_eq : inputs.forceUpdate = false
  coreVersion_ne : inputs.coreVersion ≠ ""

/-- The version that is read from the file, empty if there is none. -/
def readVersion [BinaryFiles] (content : Option (List Char)) : String :=
  match content.bind grepVersion with
  | some printed => substituted (String.ofList (awkSecond printed))
  | none => ""

section Reading

variable [BinaryFiles] {content : List Char}

theorem grepVersion_isSome_iff : (grepVersion content).isSome = true ↔ StatesVersion content := by
  unfold grepVersion StatesVersion
  by_cases hbinary : BinaryFiles.isBinary content = true
  · rw [if_pos hbinary, if_pos hbinary]
  · rw [if_neg hbinary, if_neg hbinary, grepStart]
    have hlines : linesStarting "Version:".toList content = [] ↔
        ∀ line ∈ content.splitOn '\n', ¬ "Version:".toList <+: line := by
      simp only [linesStarting, List.filter_eq_nil_iff, List.isPrefixOf_iff_prefix]
    by_cases hnone : linesStarting "Version:".toList content = []
    · rw [if_pos hnone]
      apply iff_of_false Bool.false_ne_true
      rintro ⟨line, hmem, hstarts⟩
      exact hlines.mp hnone line hmem hstarts
    · rw [if_neg hnone]
      apply iff_of_true rfl
      by_contra hno
      push Not at hno
      exact hnone (hlines.mpr hno)

theorem grepVersion_eq_none (h : ¬ StatesVersion content) : grepVersion content = none := by
  rw [← Option.not_isSome_iff_eq_none, grepVersion_isSome_iff]
  exact h

theorem ofContent_of_some {printed : List Char} (h : grepVersion content = some printed) :
    VersionFile.ofContent content =
      .stating (substituted (String.ofList (awkSecond printed))) := by
  rw [VersionFile.ofContent, h]

theorem ofContent_of_none (h : grepVersion content = none) :
    VersionFile.ofContent content = .damaged := by
  rw [VersionFile.ofContent, h]

end Reading

/-! ## The decision -/

/-- Every outcome is a success. -/
def successes (count : ℕ) : List Outcome := List.replicate count .succeeds

/-- What `perform_update` has done before the version check. -/
def preparation : List (Command × Bool) :=
  [(.log, true), (.elsewhere, true), (.log, true), (.elsewhere, true), (.elsewhere, true),
    (.elsewhere, true), (.log, true)]

/-- The rest of `perform_update` from the version check on. -/
def afterCheck (inputs : UpdateInputs) (latest : Bool) : Script Unit :=
  if latest then do log; pure () else deploy inputs

section Runs

variable {inputs : UpdateInputs} {fs : FileSystem} {rest : List Outcome}

theorem run_preparation (h : inputs.coreVersion ≠ "") :
    runUpdate inputs (successes 7 ++ rest) fs =
      StoppedRun.run (step inputs) (isAlreadyLatest inputs >>= afterCheck inputs) rest
        ⟨fs, preparation⟩ := by
  have hrequire : require (inputs.coreVersion ≠ "")
      "Could not extract version from downloaded .deb package" = pure () := by
    simp [require, h]
  rw [runUpdate, performUpdate, hrequire]
  rfl

/-- The version check once it is known whether there is a version file. -/
def checkFile (inputs : UpdateInputs) (isFile : Bool) : Script Bool :=
  if isFile then do
    let currentVersion ← .issue .grepCurrentVersion .done
    log
    pure (currentVersion ≠ "" && currentVersion = inputs.coreVersion)
  else do
    log
    pure false

theorem run_check (h : inputs.forceUpdate = false) (history : List (Command × Bool)) :
    StoppedRun.run (step inputs) (isAlreadyLatest inputs >>= afterCheck inputs)
        (.succeeds :: rest) ⟨fs, history⟩ =
      StoppedRun.run (step inputs)
        (checkFile inputs fs.currentVersionFile.isSome >>= afterCheck inputs) rest
        ⟨fs, history⟩ := by
  rw [isAlreadyLatest, h]
  rfl

/-- Without a version file the update goes on. -/
theorem run_checkFile_of_none (history : List (Command × Bool)) :
    StoppedRun.run (step inputs) (checkFile inputs false >>= afterCheck inputs)
        (.succeeds :: rest) ⟨fs, history⟩ =
      StoppedRun.run (step inputs) (deploy inputs) rest ⟨fs, history ++ [(.log, true)]⟩ := rfl

/-- With a version the two are compared. -/
theorem run_checkFile_of_stating {version : String}
    (hfile : fs.currentVersionFile = some (.stating version)) (history : List (Command × Bool)) :
    StoppedRun.run (step inputs) (checkFile inputs true >>= afterCheck inputs)
        (.succeeds :: .succeeds :: rest) ⟨fs, history⟩ =
      StoppedRun.run (step inputs)
        (afterCheck inputs (version ≠ "" && version = inputs.coreVersion)) rest
        ⟨fs, history ++ [(.log, true)]⟩ := by
  have hgrep : step inputs .grepCurrentVersion .succeeds ⟨fs, history⟩ =
      (some version, ⟨fs, history⟩) := by
    simp only [step, hfile]
  calc StoppedRun.run (step inputs) (checkFile inputs true >>= afterCheck inputs)
        (.succeeds :: .succeeds :: rest) ⟨fs, history⟩
      = StoppedRun.run (step inputs)
          (.issue .grepCurrentVersion fun version ↦ do
            log
            afterCheck inputs (version ≠ "" && version = inputs.coreVersion))
          (.succeeds :: .succeeds :: rest) ⟨fs, history⟩ := rfl
    _ = _ := by
        rw [StoppedRun.run, hgrep]
        rfl

/-- Without a version line the assignment ends the run. -/
theorem run_checkFile_of_damaged (hfile : fs.currentVersionFile = some .damaged)
    (history : List (Command × Bool)) (outcome : Outcome) :
    StoppedRun.run (step inputs) (checkFile inputs true >>= afterCheck inputs)
        (outcome :: rest) ⟨fs, history⟩ = (.failed, ⟨fs, history⟩) := by
  have hgrep : step inputs .grepCurrentVersion outcome ⟨fs, history⟩ =
      (none, ⟨fs, history⟩) := by
    cases outcome <;> simp only [step, hfile]
  calc StoppedRun.run (step inputs) (checkFile inputs true >>= afterCheck inputs)
        (outcome :: rest) ⟨fs, history⟩
      = StoppedRun.run (step inputs)
          (.issue .grepCurrentVersion fun version ↦ do
            log
            afterCheck inputs (version ≠ "" && version = inputs.coreVersion))
          (outcome :: rest) ⟨fs, history⟩ := rfl
    _ = _ := by rw [StoppedRun.run, hgrep]

end Runs

section Decision

variable [BinaryFiles] {system : VersionedSystem} {update : CheckedUpdate}

/-- The operations up to the decision: the test, `grep` if there is a file, and a log line. -/
def VersionedSystem.opsToDecision (system : VersionedSystem) : ℕ :=
  if system.content.isSome then 7 + 3 else 7 + 2

/-- The version that is read is not empty and is that of the package. -/
def UpToDate (system : VersionedSystem) (update : CheckedUpdate) : Prop :=
  readVersion system.content ≠ "" ∧ readVersion system.content = update.inputs.coreVersion

instance (system : VersionedSystem) (update : CheckedUpdate) : Decidable (UpToDate system update) :=
  inferInstanceAs (Decidable (_ ∧ _))

/-- The state in which the decision is made. -/
def VersionedSystem.decided (system : VersionedSystem) : ScriptState :=
  ⟨system.fs, preparation ++ [(.log, true)]⟩

/-- If everything before it succeeds, an update ends with success where its version is current, and
otherwise goes on to choose a target and install. -/
structure MakesDecision (system : VersionedSystem) (update : CheckedUpdate) : Prop where
  skips : UpToDate system update → ∀ rest,
    runUpdate update.inputs (successes (system.opsToDecision + 1) ++ rest) system.fs =
      (.finished (), ⟨system.fs, system.decided.history ++ [(.log, true)]⟩)
  installs : ¬ UpToDate system update → ∀ rest,
    runUpdate update.inputs (successes system.opsToDecision ++ rest) system.fs =
      StoppedRun.run (step update.inputs) (deploy update.inputs) rest system.decided

theorem run_to_check (rest : List Outcome) :
    runUpdate update.inputs (successes (7 + 1) ++ rest) system.fs =
      StoppedRun.run (step update.inputs)
        (checkFile update.inputs system.content.isSome >>= afterCheck update.inputs) rest
        ⟨system.fs, preparation⟩ := by
  have hisSome : system.fs.currentVersionFile.isSome = system.content.isSome := by
    rw [system.currentVersionFile_eq, Option.isSome_map]
  have hsplit : successes (7 + 1) ++ rest = successes 7 ++ .succeeds :: rest := by
    rw [successes, List.replicate_succ', List.append_assoc]
    rfl
  rw [hsplit, run_preparation update.coreVersion_ne, run_check update.forceUpdate_eq, hisSome]

/-- A run whose version file is missing or states a version comes to the decision. -/
theorem run_to_decision (h : ∀ content, system.content = some content → StatesVersion content)
    (rest : List Outcome) :
    runUpdate update.inputs (successes system.opsToDecision ++ rest) system.fs =
      StoppedRun.run (step update.inputs)
        (afterCheck update.inputs (decide (UpToDate system update))) rest system.decided := by
  cases hcontent : system.content with
  | none =>
      have hold : ¬ UpToDate system update := by
        rintro ⟨hne, -⟩
        rw [readVersion, hcontent] at hne
        exact hne rfl
      have hops : successes system.opsToDecision ++ rest =
          successes (7 + 1) ++ .succeeds :: rest := by
        rw [VersionedSystem.opsToDecision, hcontent]
        rfl
      rw [hops, run_to_check, hcontent, decide_eq_false hold]
      exact run_checkFile_of_none _
  | some content =>
      obtain ⟨printed, hprinted⟩ :=
        Option.isSome_iff_exists.mp (grepVersion_isSome_iff.mpr (h content hcontent))
      have hfile : system.fs.currentVersionFile =
          some (.stating (readVersion system.content)) := by
        rw [system.currentVersionFile_eq, hcontent, Option.map_some, ofContent_of_some hprinted,
          readVersion, Option.bind_some, hprinted]
      have hops : successes system.opsToDecision ++ rest =
          successes (7 + 1) ++ .succeeds :: .succeeds :: rest := by
        rw [VersionedSystem.opsToDecision, hcontent]
        rfl
      have hcurrent : (readVersion system.content ≠ "" &&
          readVersion system.content = update.inputs.coreVersion) =
            decide (UpToDate system update) := (Bool.decide_and _ _).symm
      rw [hops, run_to_check, hcontent, Option.isSome_some, run_checkFile_of_stating hfile,
        hcurrent]
      rfl

/-- A version file that states no version ends the run. -/
theorem run_of_damaged {content : List Char} (hcontent : system.content = some content)
    (h : ¬ StatesVersion content) (rest : List Outcome) :
    runUpdate update.inputs (successes system.opsToDecision ++ rest) system.fs =
      (.failed, ⟨system.fs, preparation⟩) := by
  have hfile : system.fs.currentVersionFile = some .damaged := by
    rw [system.currentVersionFile_eq, hcontent, Option.map_some,
      ofContent_of_none (grepVersion_eq_none h)]
  have hops : successes system.opsToDecision ++ rest =
      successes (7 + 1) ++ .succeeds :: .succeeds :: rest := by
    rw [VersionedSystem.opsToDecision, hcontent]
    rfl
  rw [hops, run_to_check, hcontent, Option.isSome_some]
  exact run_checkFile_of_damaged hfile _ _

/-- The decision is only made of a version file that states a version. -/
theorem MakesDecision.states (h : MakesDecision system update) {content : List Char}
    (hcontent : system.content = some content) : StatesVersion content := by
  by_contra hdamaged
  have hold : ¬ UpToDate system update := by
    rintro ⟨hne, -⟩
    rw [readVersion, hcontent, Option.bind_some, grepVersion_eq_none hdamaged] at hne
    exact hne rfl
  have hrun := h.installs hold []
  rw [run_of_damaged hcontent hdamaged] at hrun
  exact absurd (congrArg Prod.fst hrun) nofun

/-- An update makes its decision exactly when there is no version file or it states a version. -/
theorem makesDecision_iff (system : VersionedSystem) (update : CheckedUpdate) :
    MakesDecision system update ↔
      ∀ content, system.content = some content → StatesVersion content := by
  constructor
  · exact fun h content hcontent ↦ h.states hcontent
  · intro h
    constructor
    · intro hcurrent rest
      have hops : successes (system.opsToDecision + 1) ++ rest =
          successes system.opsToDecision ++ .succeeds :: rest := by
        rw [successes, List.replicate_succ', List.append_assoc]
        rfl
      rw [hops, run_to_decision h, decide_eq_true hcurrent]
      rfl
    · intro hold rest
      rw [run_to_decision h, decide_eq_false hold]
      rfl

end Decision

/-- No file is binary. -/
@[reducible]
def allText : BinaryFiles := ⟨fun _ ↦ false, fun _ ↦ none⟩

/-- A device whose active deployment has an empty version file. -/
def emptyVersionFiles : FileSystem where
  link
    | .edc => .link edcDirA
    | .senscord => .absent
  node := Function.update (fun _ ↦ .absent) edcDirA
    (.directory { Deployment.empty with versionEdc := some .damaged })

theorem currentVersionFile_emptyVersionFiles :
    emptyVersionFiles.currentVersionFile =
      Option.map (@VersionFile.ofContent allText) (some []) := by
  decide +kernel

def emptyVersionSystem : @VersionedSystem allText :=
  @VersionedSystem.mk allText emptyVersionFiles (some []) currentVersionFile_emptyVersionFiles

theorem coreVersion_updateToTwo : updateToTwo.coreVersion ≠ "" := by decide

def checkedUpdateToTwo : CheckedUpdate where
  inputs := updateToTwo
  forceUpdate_eq := rfl
  coreVersion_ne := coreVersion_updateToTwo

/-- An empty version file ends the update. -/
theorem not_makesDecision_emptyVersionSystem :
    ¬ @MakesDecision allText emptyVersionSystem checkedUpdateToTwo := by
  intro h
  have hstates := @MakesDecision.states allText _ _ h [] rfl
  obtain ⟨line, hmem, hstarts⟩ := hstates
  obtain rfl := List.mem_singleton.mp hmem
  exact absurd hstarts (by decide +kernel)

end EdgeDeviceCore.Ota
