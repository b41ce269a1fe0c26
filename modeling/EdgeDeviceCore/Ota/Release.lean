import EdgeDeviceCore.Ota.ActiveDeployment
import EdgeDeviceCore.Ota.VersionCheck
import EdgeDeviceCore.Package.Build
import EdgeDeviceCore.Semantics.SearchPattern

/-!
# From the build to the update

The update script looks for its package among the assets of a release by a pattern on their names,
and reads the version of the package from what `dpkg-deb -I` prints. It writes this version to the
version file and reads it there in the next run. All of it goes through texts that `mk-deb.sh` and
the script itself have made.
-/

open EdgeDeviceCore.Semantics SearchPattern

namespace EdgeDeviceCore.Ota

/-! ## Lines -/

section Lines

variable {lines : List (List Char)} {start : List Char}

theorem unlines_singleton (line : List Char) : unlines [line] = line ++ ['\n'] :=
  List.flatMap_singleton ..

theorem splitOn_unlines (h : ∀ line ∈ lines, '\n' ∉ line) :
    (unlines lines).splitOn '\n' = lines ++ [[]] := by
  induction lines with
  | nil => exact List.splitOn_nil '\n'
  | cons line lines ih =>
      rw [List.forall_mem_cons] at h
      have hcons : unlines (line :: lines) = line ++ '\n' :: unlines lines := by
        rw [unlines, List.flatMap_cons, List.append_assoc]
        rfl
      rw [hcons, List.splitOn_append_cons_self_of_not_mem h.1, ih h.2]
      rfl

theorem grepStart_unlines (h : ∀ line ∈ lines, '\n' ∉ line) (hstart : start ≠ []) :
    grepStart start (unlines lines) =
      if lines.filter (start.isPrefixOf ·) = [] then none
      else some (unlines (lines.filter (start.isPrefixOf ·))) := by
  have hempty : [([] : List Char)].filter (start.isPrefixOf ·) = [] := by
    cases start with
    | nil => exact absurd rfl hstart
    | cons => rfl
  rw [grepStart, linesStarting, splitOn_unlines h, List.filter_append, hempty, List.append_nil]

theorem awkSecond_unlines (h : ∀ line ∈ lines, '\n' ∉ line) :
    awkSecond (unlines lines) = unlines (lines.map fun line ↦ (awkFields line)[1]?.getD []) := by
  have hrecords : (if (lines ++ [[]]).getLast? = some [] then (lines ++ [[]]).dropLast
      else lines ++ [[]]) = lines := by
    rw [if_pos List.getLast?_concat, List.dropLast_concat]
  rw [awkSecond, splitOn_unlines h, hrecords, unlines, List.flatMap_map]

theorem isPrefixOf_append {first rest : List Char} (h : start.length ≤ first.length) :
    start.isPrefixOf (first ++ rest) = start.isPrefixOf first := by
  rw [Bool.eq_iff_iff, List.isPrefixOf_iff_prefix, List.isPrefixOf_iff_prefix]
  constructor
  · exact fun hprefix ↦ List.prefix_of_prefix_length_le hprefix (List.prefix_append ..) h
  · exact fun hprefix ↦ hprefix.trans (List.prefix_append ..)

end Lines

/-! ## Versions -/

/-- A version in the syntax of `dpkg`. -/
structure IsDebianVersion (version : List Char) : Prop where
  starts : version.head?.any Char.isDigit = true
  allowed : (version.all fun character ↦
    character.isAlphanum || ['+', '-', '.', '~', ':'].contains character) = true

/-- Printable, and not a blank. -/
def IsGraphic (character : Char) : Prop := 33 ≤ character.toNat ∧ character.toNat ≤ 126

theorem isGraphic_of_isAlphanum {character : Char} (h : character.isAlphanum = true) :
    IsGraphic character := by
  simp only [Char.isAlphanum, Char.isAlpha, Char.isUpper, Char.isLower, Char.isDigit,
    Bool.or_eq_true, Bool.and_eq_true, decide_eq_true_eq, UInt32.le_iff_toNat_le, ge_iff_le] at h
  have hval : character.toNat = character.val.toNat := rfl
  have hA : 'A'.val.toNat = 65 := rfl
  have hZ : 'Z'.val.toNat = 90 := rfl
  have ha : 'a'.val.toNat = 97 := rfl
  have hz : 'z'.val.toNat = 122 := rfl
  have hzero : '0'.val.toNat = 48 := rfl
  have hnine : '9'.val.toNat = 57 := rfl
  unfold IsGraphic
  omega

section Version

variable {version start : List Char}

theorem IsDebianVersion.isGraphic (h : IsDebianVersion version) :
    ∀ character ∈ version, IsGraphic character := by
  intro character hmem
  rcases Bool.or_eq_true_iff.mp (List.all_eq_true.mp h.allowed character hmem) with
    halnum | hother
  · exact isGraphic_of_isAlphanum halnum
  · simp only [List.contains_iff_mem, List.mem_cons, List.not_mem_nil, or_false] at hother
    rcases hother with rfl | rfl | rfl | rfl | rfl <;> exact ⟨by decide, by decide⟩

theorem IsDebianVersion.exists_cons (h : IsDebianVersion version) :
    ∃ digit rest, version = digit :: rest ∧ digit.isDigit = true := by
  have hstarts := h.starts
  cases version with
  | nil => cases hstarts
  | cons digit rest => exact ⟨digit, rest, rfl, hstarts⟩

theorem IsDebianVersion.ne_nil (h : IsDebianVersion version) : version ≠ [] := by
  obtain ⟨digit, rest, rfl, -⟩ := h.exists_cons
  exact List.cons_ne_nil _ _

theorem not_mem_of_isGraphic {character : Char} (h : ∀ other ∈ version, IsGraphic other)
    (hcharacter : character.toNat < 33) : character ∉ version :=
  fun hmem ↦ absurd (h character hmem).1 (Nat.not_le.mpr hcharacter)

/-- A version behind a text with one field is the second field. -/
theorem awkFields_append (h : IsDebianVersion version) :
    awkFields (start ++ ' ' :: version) = awkFields start ++ [version] := by
  have hkept : ∀ character ∈ version, (character = ' ' || character = '\t') = false := by
    intro character hmem
    have hgraphic := (h.isGraphic character hmem).1
    simp only [Bool.or_eq_false_iff, decide_eq_false_iff_not]
    constructor
    · rintro rfl
      exact absurd hgraphic (by decide)
    · rintro rfl
      exact absurd hgraphic (by decide)
  have hversion : [version].filter (· ≠ []) = [version] :=
    List.filter_cons_of_pos (decide_eq_true h.ne_nil)
  rw [awkFields, List.splitOnP_append_cons _ _ (by decide), List.splitOnP_eq_singleton hkept,
    List.filter_append, hversion]
  rfl

/-- The version that is read from the lines that were found. -/
def readSecond (printed : List Char) : String :=
  substituted (String.ofList (awkSecond printed))

theorem readSecond_unlines (h : IsDebianVersion version) {field : List Char}
    (hfields : awkFields start = [field]) (hstart : '\n' ∉ start) :
    readSecond (unlines [start ++ ' ' :: version]) = String.ofList version := by
  have hline : ∀ line ∈ [start ++ ' ' :: version], '\n' ∉ line := by
    intro line hmem
    rw [List.mem_singleton.mp hmem, List.mem_append, List.mem_cons, not_or, not_or]
    exact ⟨hstart, by decide, not_mem_of_isGraphic h.isGraphic (by decide)⟩
  have hlast : ¬ (fun character ↦ decide (character = '\n')) (version.getLast h.ne_nil) := by
    intro hnewline
    exact not_mem_of_isGraphic h.isGraphic (by decide)
      (of_decide_eq_true hnewline ▸ List.getLast_mem h.ne_nil)
  have hdropped : (version ++ ['\n']).rdropWhile (· = '\n') = version := by
    rw [List.rdropWhile_concat, if_pos (decide_eq_true rfl),
      List.rdropWhile_eq_self_iff.mpr fun _ ↦ hlast]
  have hsecond : awkSecond (unlines [start ++ ' ' :: version]) = version ++ ['\n'] := by
    calc
      _ = unlines [(awkFields (start ++ ' ' :: version))[1]?.getD []] := awkSecond_unlines hline
      _ = unlines [([field] ++ [version])[1]?.getD []] := by rw [awkFields_append h, hfields]
      _ = version ++ ['\n'] := unlines_singleton version
  rw [readSecond, hsecond, substituted, String.toList_ofList, hdropped]

end Version

/-! ## The version of a package -/

/-- `dpkg-deb -I` prints the control file with a blank before each line, below lines of its own. -/
class DpkgDeb where
  header : List (List Char) → List (List Char)
  header_not_version : ∀ control, ∀ line ∈ header control,
    " Version:".toList.isPrefixOf line = false
  header_one_line : ∀ control, ∀ line ∈ header control, '\n' ∉ line

def infoLines [DpkgDeb] (control : List (List Char)) : List (List Char) :=
  DpkgDeb.header control ++ control.map (' ' :: ·)

/-- `dpkg-deb -I | grep '^ Version:' | awk '\x7bprint $2\x7d'`, if the pipeline succeeds. -/
def packageVersion [DpkgDeb] (control : List (List Char)) : Option String :=
  (grepStart " Version:".toList (unlines (infoLines control))).map readSecond

/-- `echo "Version: $CORE_VERSION"`. -/
def versionEdcText (coreVersion : String) : List Char :=
  unlines ["Version:".toList ++ ' ' :: coreVersion.toList]

/-- Files of printable characters are text for `grep`. -/
class TextFiles extends BinaryFiles where
  isBinary_of_printable : ∀ content : List Char,
    (∀ character ∈ content, character = '\n' ∨ 32 ≤ character.toNat ∧ character.toNat ≤ 126) →
    isBinary content = false

section Control

variable {version debarch maintainer : String}

theorem controlLines_one_line (hversion : IsDebianVersion version.toList)
    (hdebarch : '\n' ∉ debarch.toList) (hmaintainer : '\n' ∉ maintainer.toList) :
    ∀ line ∈ Package.controlLines version debarch maintainer, '\n' ∉ line := by
  have hword {start rest : List Char} (hstart : '\n' ∉ start) (hrest : '\n' ∉ rest) :
      '\n' ∉ start ++ rest := by
    rw [List.mem_append, not_or]
    exact ⟨hstart, hrest⟩
  simp only [Package.controlLines, List.forall_mem_cons, List.not_mem_nil, false_implies,
    implies_true, and_true]
  refine ⟨by decide +kernel, by decide +kernel, hword (by decide +kernel) ?_, by decide +kernel,
    hword (by decide +kernel) hdebarch, hword (by decide +kernel) hmaintainer, by decide +kernel,
    by decide +kernel, by decide +kernel⟩
  exact not_mem_of_isGraphic hversion.isGraphic (by decide)

/-- One line of the control file states the version. -/
theorem filter_controlLines :
    ((Package.controlLines version debarch maintainer).map (' ' :: ·)).filter
        (" Version:".toList.isPrefixOf ·) =
      [" Version:".toList ++ ' ' :: version.toList] := by
  have hother (first rest : List Char) (hlength : " Version:".toList.length ≤ first.length)
      (hfirst : " Version:".toList.isPrefixOf first = false) :
      ¬ " Version:".toList.isPrefixOf (first ++ rest) = true := by
    rw [isPrefixOf_append hlength, hfirst]
    exact Bool.false_ne_true
  have hstart : ' ' :: "Version: ".toList = " Version:".toList ++ [' '] := by decide +kernel
  have hline : ' ' :: ("Version: ".toList ++ version.toList) =
      " Version:".toList ++ ' ' :: version.toList := by
    calc
      _ = (' ' :: "Version: ".toList) ++ version.toList := rfl
      _ = (" Version:".toList ++ [' ']) ++ version.toList := by rw [hstart]
      _ = " Version:".toList ++ ' ' :: version.toList := List.append_assoc ..
  have hversion : " Version:".toList.isPrefixOf
      (' ' :: ("Version: ".toList ++ version.toList)) = true := by
    rw [hline, List.isPrefixOf_iff_prefix]
    exact List.prefix_append ..
  have harchitecture : ¬ " Version:".toList.isPrefixOf
      (' ' :: ("Architecture: ".toList ++ debarch.toList)) = true :=
    hother (' ' :: "Architecture: ".toList) debarch.toList (by decide +kernel) (by decide +kernel)
  have hmaintainer : ¬ " Version:".toList.isPrefixOf
      (' ' :: ("Maintainer: ".toList ++ maintainer.toList)) = true :=
    hother (' ' :: "Maintainer: ".toList) maintainer.toList (by decide +kernel) (by decide +kernel)
  simp only [Package.controlLines, List.map_cons, List.map_nil]
  rw [List.filter_cons_of_neg (by decide +kernel), List.filter_cons_of_neg (by decide +kernel),
    List.filter_cons_of_pos hversion, List.filter_cons_of_neg (by decide +kernel),
    List.filter_cons_of_neg harchitecture, List.filter_cons_of_neg hmaintainer,
    List.filter_cons_of_neg (by decide +kernel), List.filter_cons_of_neg (by decide +kernel),
    List.filter_cons_of_neg (by decide +kernel), List.filter_nil, hline]

/-- The version that is read from the package is the version of the build. -/
theorem packageVersion_controlLines [DpkgDeb] (hversion : IsDebianVersion version.toList)
    (hdebarch : '\n' ∉ debarch.toList) (hmaintainer : '\n' ∉ maintainer.toList) :
    packageVersion (Package.controlLines version debarch maintainer) = some version := by
  have hone : ∀ line ∈ infoLines (Package.controlLines version debarch maintainer),
      '\n' ∉ line := by
    intro line hmem
    rcases List.mem_append.mp hmem with hheader | hcontrol
    · exact DpkgDeb.header_one_line _ line hheader
    · obtain ⟨shown, hshown, rfl⟩ := List.mem_map.mp hcontrol
      rw [List.mem_cons, not_or]
      exact ⟨by decide, controlLines_one_line hversion hdebarch hmaintainer shown hshown⟩
  have hheader : (DpkgDeb.header (Package.controlLines version debarch maintainer)).filter
      (" Version:".toList.isPrefixOf ·) = [] := by
    rw [List.filter_eq_nil_iff]
    intro line hmem
    rw [DpkgDeb.header_not_version _ line hmem]
    exact Bool.false_ne_true
  have hfound : (infoLines (Package.controlLines version debarch maintainer)).filter
      (" Version:".toList.isPrefixOf ·) = [" Version:".toList ++ ' ' :: version.toList] := by
    rw [infoLines, List.filter_append, hheader, filter_controlLines, List.nil_append]
  have hfields : awkFields " Version:".toList = ["Version:".toList] := by decide +kernel
  calc
    _ = some (readSecond (unlines [" Version:".toList ++ ' ' :: version.toList])) := by
      rw [packageVersion, grepStart_unlines hone (by decide +kernel), hfound,
        if_neg (List.cons_ne_nil _ _), Option.map_some]
    _ = some (String.ofList version.toList) := by
      rw [readSecond_unlines hversion hfields (by decide +kernel)]
    _ = some version := by rw [String.ofList_toList]

end Control

/-- The version check reads back what the installation has written. -/
theorem readSecond_versionEdcText {version : String} (h : IsDebianVersion version.toList) :
    readSecond (versionEdcText version) = version := by
  have hfields : awkFields "Version:".toList = ["Version:".toList] := by decide +kernel
  rw [versionEdcText, readSecond_unlines h hfields (by decide +kernel), String.ofList_toList]

section VersionFile

variable [TextFiles] {version : String}

theorem grepVersion_eq_grepStart {content : List Char}
    (h : BinaryFiles.isBinary content = false) :
    grepVersion content = grepStart "Version:".toList content := by
  rw [grepVersion, h]
  rfl

theorem isBinary_versionEdcText (h : IsDebianVersion version.toList) :
    BinaryFiles.isBinary (versionEdcText version) = false := by
  have hlabel : ∀ character ∈ "Version:".toList, IsGraphic character := by
    have hletters : ("Version:".toList.all fun character ↦
        character.isAlphanum || character = ':') = true := by decide +kernel
    intro character hmem
    rcases Bool.or_eq_true_iff.mp (List.all_eq_true.mp hletters character hmem) with hletter | hcolon
    · exact isGraphic_of_isAlphanum hletter
    · obtain rfl := of_decide_eq_true hcolon
      exact ⟨by decide, by decide⟩
  have hprintable {character : Char} (hgraphic : IsGraphic character) :
      32 ≤ character.toNat ∧ character.toNat ≤ 126 :=
    ⟨Nat.le_trans (by decide) hgraphic.1, hgraphic.2⟩
  apply TextFiles.isBinary_of_printable
  intro character hmem
  rw [versionEdcText, unlines_singleton] at hmem
  simp only [List.mem_append, List.mem_cons, List.not_mem_nil, or_false] at hmem
  rcases hmem with (hmem | rfl | hmem) | rfl
  · exact .inr (hprintable (hlabel character hmem))
  · exact .inr ⟨by decide, by decide⟩
  · exact .inr (hprintable (h.isGraphic character hmem))
  · exact .inl rfl

theorem grepVersion_versionEdcText (h : IsDebianVersion version.toList) :
    grepVersion (versionEdcText version) = some (versionEdcText version) := by
  have hone : ∀ line ∈ ["Version:".toList ++ ' ' :: version.toList], '\n' ∉ line := by
    intro line hmem
    rw [List.mem_singleton.mp hmem, List.mem_append, List.mem_cons, not_or, not_or]
    exact ⟨by decide +kernel, by decide, not_mem_of_isGraphic h.isGraphic (by decide)⟩
  have hfound : ["Version:".toList ++ ' ' :: version.toList].filter
      ("Version:".toList.isPrefixOf ·) = ["Version:".toList ++ ' ' :: version.toList] := by
    apply List.filter_cons_of_pos
    rw [List.isPrefixOf_iff_prefix]
    exact List.prefix_append ..
  calc
    _ = grepStart "Version:".toList (versionEdcText version) :=
      grepVersion_eq_grepStart (isBinary_versionEdcText h)
    _ = some (versionEdcText version) := by
      rw [versionEdcText, grepStart_unlines hone (by decide +kernel), hfound,
        if_neg (List.cons_ne_nil _ _)]

/-- The version file that the installation makes is the one of the model of its command. -/
theorem ofContent_versionEdcText (h : IsDebianVersion version.toList) :
    VersionFile.ofContent (versionEdcText version) = .stating version := by
  calc
    _ = VersionFile.stating (readSecond (versionEdcText version)) :=
      ofContent_of_some (grepVersion_versionEdcText h)
    _ = .stating version := congrArg VersionFile.stating (readSecond_versionEdcText h)

theorem readVersion_versionEdcText (h : IsDebianVersion version.toList) :
    readVersion (some (versionEdcText version)) = version := by
  rw [readVersion, Option.bind_some, grepVersion_versionEdcText h]
  exact readSecond_versionEdcText h

end VersionFile

/-- A build with a version that `dpkg` accepts. -/
def IsBuild (package : Package.BuiltPackage) : Prop :=
  IsDebianVersion package.version.toList ∧
    ∃ environment arguments, Package.mkDeb environment arguments = some package

theorem packageVersion_of_isBuild [DpkgDeb] {package : Package.BuiltPackage}
    (h : IsBuild package) : packageVersion package.control = some package.version := by
  obtain ⟨hversion, environment, arguments, hbuild⟩ := h
  obtain ⟨hdebarch, -, hcontrol⟩ := Package.mkDeb_eq_some hbuild
  have honeLine : '\n' ∉ package.debarch.toList := by
    rcases hdebarch with harm | hamd
    · rw [harm]
      decide +kernel
    · rw [hamd]
      decide +kernel
  rw [hcontrol]
  exact packageVersion_controlLines hversion honeLine environment.one_line

/-- **A build is installed once.** While the version file is the one that was written for an
earlier build, an update that is not forced comes to its decision, and skips exactly the builds of
this version. -/
theorem update_of_builds [TextFiles] [DpkgDeb] {current package : Package.BuiltPackage}
    (hcurrent : IsBuild current) (hpackage : IsBuild package) :
    ∃ installed offered, packageVersion current.control = some installed ∧
      packageVersion package.control = some offered ∧
      ∀ (system : VersionedSystem) (update : CheckedUpdate),
        system.content = some (versionEdcText installed) → update.inputs.coreVersion = offered →
        ∀ rest,
          runUpdate update.inputs (successes system.opsToDecision ++ rest) system.fs =
            StoppedRun.run (step update.inputs)
              (if current.version = package.version then do log; pure ()
                else deploy update.inputs) rest system.decided := by
  refine ⟨current.version, package.version, packageVersion_of_isBuild hcurrent,
    packageVersion_of_isBuild hpackage, fun system update hcontent hoffered rest ↦ ?_⟩
  have hread : readVersion system.content = current.version := by
    rw [hcontent, readVersion_versionEdcText hcurrent.1]
  have hstates : ∀ content, system.content = some content → StatesVersion content := by
    intro content hsome
    obtain rfl := Option.some.inj (hcontent.symm.trans hsome)
    rw [← grepVersion_isSome_iff, grepVersion_versionEdcText hcurrent.1]
    rfl
  have hne : current.version ≠ "" := by
    intro hempty
    exact hcurrent.1.ne_nil (by rw [hempty]; rfl)
  have hupToDate : UpToDate system update ↔ current.version = package.version := by
    rw [UpToDate, hread, hoffered]
    exact and_iff_right hne
  rw [run_to_decision hstates, afterCheck]
  simp only [hupToDate, decide_eq_true_eq]

/-! ## Two builds -/

/-- All files are text. -/
@[reducible]
def onlyText : TextFiles := { allText with isBinary_of_printable := fun _ _ ↦ rfl }

/-- `dpkg-deb -I` with one line above the control file. -/
@[reducible]
def oneLineHeader : DpkgDeb where
  header _ := [" new Debian package, version 2.0.".toList]
  header_not_version _ line hmem := by
    rw [List.mem_singleton.mp hmem]
    decide +kernel
  header_one_line _ line hmem := by
    rw [List.mem_singleton.mp hmem]
    decide +kernel

def buildEnvironment : Package.BuildEnvironment := ⟨"", "build", "Somebody", by decide +kernel⟩

/-- A build of a version for an architecture. -/
def buildOf (version debarch : String) : Package.BuiltPackage where
  version := version
  debarch := debarch
  directory := "build"
  fileName := "edge-device-core-".toList ++ version.toList ++ '_' ::
    debarch.toList ++ ".deb".toList
  control := Package.controlLines version debarch "Somebody"

theorem isBuild_buildOf_arm64 {version : String} (h : IsDebianVersion version.toList) :
    IsBuild (buildOf version "arm64") :=
  ⟨h, buildEnvironment, ["-a", "aarch64", "-V", version], rfl⟩

theorem isDebianVersion_one : IsDebianVersion "1.0.0".toList :=
  ⟨by decide +kernel, by decide +kernel⟩

theorem isDebianVersion_two : IsDebianVersion "2.0.0".toList :=
  ⟨by decide +kernel, by decide +kernel⟩

theorem currentVersionFile_firstCurrent :
    firstCurrent.currentVersionFile =
      Option.map (@VersionFile.ofContent onlyText.toBinaryFiles) (some (versionEdcText "1.0.0")) := by
  rw [Option.map_some, @ofContent_versionEdcText onlyText _ isDebianVersion_one]
  decide +kernel

/-- The device runs version 1.0.0, and its version file is the one that was written for it. -/
def firstSystem : @VersionedSystem onlyText.toBinaryFiles :=
  @VersionedSystem.mk onlyText.toBinaryFiles firstCurrent (some (versionEdcText "1.0.0"))
    currentVersionFile_firstCurrent

/-- Another version is installed. -/
theorem update_of_builds_nextVersion :
    runUpdate updateToTwo (successes 10 ++ successes 30) firstCurrent =
      StoppedRun.run (step updateToTwo) (deploy updateToTwo) (successes 30)
        ⟨firstCurrent, preparation ++ [(.log, true)]⟩ := by
  have hone := isBuild_buildOf_arm64 isDebianVersion_one
  have htwo := isBuild_buildOf_arm64 isDebianVersion_two
  obtain ⟨installed, offered, hinstalled, hoffered, hrun⟩ :=
    @update_of_builds onlyText oneLineHeader _ _ hone htwo
  obtain rfl := Option.some.inj
    ((@packageVersion_of_isBuild oneLineHeader _ hone).symm.trans hinstalled)
  obtain rfl := Option.some.inj
    ((@packageVersion_of_isBuild oneLineHeader _ htwo).symm.trans hoffered)
  exact hrun firstSystem checkedUpdateToTwo rfl rfl (successes 30)

/-! ## The asset of a release -/

/-- `[0-9.]`. -/
def isVersionCharacter (character : Char) : Bool := character.isDigit || character = '.'

/-- The pattern that `jq` tests names with. A name is one line, and `.` is any character of it. -/
def assetPattern (name : String) : Pattern Char :=
  literal name.toList ++ [.plus isVersionCharacter, .star (· ≠ '\n')] ++
    literal "_arm64.deb".toList

def coreAssetPattern : Pattern Char := assetPattern "edge-device-core-"

def sensorAssetPattern : Pattern Char := assetPattern "senscord-edc-rpi-"

structure Asset where
  name : List Char
  url : String

/-- The URLs that `jq` prints. -/
def assetUrls (pattern : Pattern Char) (assets : List Asset) : List String :=
  (assets.filter fun asset ↦ foundAtEnd pattern asset.name).map Asset.url

section Assets

variable {name : String} {version : List Char}

theorem found_of_arm64 (h : IsDebianVersion version) :
    foundAtEnd (assetPattern name) (name.toList ++ version ++ "_arm64.deb".toList) = true := by
  obtain ⟨digit, rest, rfl, hdigit⟩ := h.exists_cons
  have hplus : [digit] ∈ (Item.plus isVersionCharacter).language :=
    Language.mem_mul.mpr ⟨[digit], ⟨digit, by rw [isVersionCharacter, hdigit]; rfl, rfl⟩, [],
      Language.nil_mem_kstar _, rfl⟩
  have hstar : rest ∈ (Item.star (· ≠ '\n') : Item Char).language := by
    refine mem_kstar_single.mpr fun character hmem ↦ decide_eq_true ?_
    rintro rfl
    exact not_mem_of_isGraphic h.isGraphic (by decide) (List.mem_cons_of_mem _ hmem)
  have hversion : digit :: rest ∈
      language [Item.plus isVersionCharacter, Item.star (· ≠ '\n')] := by
    rw [language_cons, language_cons, language_nil, mul_one]
    exact Language.append_mem_mul hplus hstar
  rw [foundAtEnd_iff]
  refine ⟨[], _, ?_, rfl⟩
  rw [assetPattern, language_append, language_append]
  exact Language.append_mem_mul (Language.append_mem_mul (mem_literal.mpr rfl) hversion)
    (mem_literal.mpr rfl)

example : foundAtEnd sensorAssetPattern "senscord-edc-rpi-1.0.0_arm64.deb".toList = true := by
  decide +kernel

theorem suffix_of_found {text : List Char} (h : foundAtEnd (assetPattern name) text = true) :
    "_arm64.deb".toList <:+ text := by
  obtain ⟨before, matched, hmatched, rfl⟩ := (foundAtEnd_iff _).mp h
  rw [assetPattern, language_append] at hmatched
  obtain ⟨start, -, last, hlast, rfl⟩ := Language.mem_mul.mp hmatched
  obtain rfl := mem_literal.mp hlast
  rw [← List.append_assoc]
  exact List.suffix_append ..

/-- The pattern takes the architecture from the name. -/
theorem found_iff {debarch : String} (h : IsDebianVersion version)
    (hdebarch : debarch = "arm64" ∨ debarch = "amd64") :
    foundAtEnd (assetPattern name)
        (name.toList ++ version ++ '_' :: debarch.toList ++ ".deb".toList) = true ↔
      debarch = "arm64" := by
  have hending (architecture ending : String)
      (hsame : '_' :: architecture.toList ++ ".deb".toList = ending.toList) :
      name.toList ++ version ++ '_' :: architecture.toList ++ ".deb".toList =
        name.toList ++ version ++ ending.toList := by
    rw [← hsame, List.append_assoc]
  rcases hdebarch with rfl | rfl
  · rw [hending "arm64" "_arm64.deb" (by decide +kernel)]
    exact iff_of_true (found_of_arm64 h) rfl
  · rw [hending "amd64" "_amd64.deb" (by decide +kernel)]
    refine iff_of_false (fun hfound ↦ ?_) (by decide)
    have hlength : "_arm64.deb".toList.length = "_amd64.deb".toList.length := by decide +kernel
    have hsuffix := List.suffix_of_suffix_length_le (suffix_of_found hfound)
      (List.suffix_append (name.toList ++ version) "_amd64.deb".toList) hlength.le
    exact absurd (hsuffix.eq_of_length hlength) (by decide +kernel)

end Assets

/-- The assets of a release. -/
def releaseAssets (release : List (Package.BuiltPackage × String)) : List Asset :=
  release.map fun entry ↦ ⟨entry.1.fileName, entry.2⟩

/-- **The script finds the builds for its architecture.** Of the builds in a release, with whatever
versions, `jq` prints the URLs of those for `arm64` and of no others. -/
theorem assetUrls_of_builds {release : List (Package.BuiltPackage × String)}
    (hbuilds : ∀ entry ∈ release, IsBuild entry.1) :
    assetUrls coreAssetPattern (releaseAssets release) =
      (release.filter fun entry ↦ entry.1.debarch = "arm64").map Prod.snd := by
  have hname : ∀ entry ∈ release, foundAtEnd coreAssetPattern entry.1.fileName =
      decide (entry.1.debarch = "arm64") := by
    intro entry hmem
    obtain ⟨hversion, environment, arguments, hbuild⟩ := hbuilds entry hmem
    obtain ⟨hdebarch, hfileName, -⟩ := Package.mkDeb_eq_some hbuild
    rw [hfileName, Bool.eq_iff_iff, decide_eq_true_iff]
    exact found_iff hversion hdebarch
  calc
    _ = (release.filter fun entry ↦ foundAtEnd coreAssetPattern entry.1.fileName).map Prod.snd := by
      rw [assetUrls, releaseAssets, List.filter_map, List.map_map]
      rfl
    _ = (release.filter fun entry ↦ entry.1.debarch = "arm64").map Prod.snd :=
      congrArg (List.map Prod.snd) (List.filter_congr hname)

theorem isBuild_buildOf_amd64 {version : String} (h : IsDebianVersion version.toList) :
    IsBuild (buildOf version "amd64") :=
  ⟨h, buildEnvironment, ["-a", "x86_64", "-V", version], rfl⟩

/-- One version, built for both architectures. -/
theorem assetUrls_of_builds_bothArchitectures :
    assetUrls coreAssetPattern (releaseAssets
      [(buildOf "2.0.0" "amd64", "first"), (buildOf "2.0.0" "arm64", "second")]) = ["second"] := by
  have hbuilds : ∀ entry ∈
      [(buildOf "2.0.0" "amd64", "first"), (buildOf "2.0.0" "arm64", "second")],
      IsBuild entry.1 := by
    simp only [List.forall_mem_cons, List.not_mem_nil, false_implies, implies_true, and_true]
    exact ⟨isBuild_buildOf_amd64 isDebianVersion_two, isBuild_buildOf_arm64 isDebianVersion_two⟩
  rw [assetUrls_of_builds hbuilds]
  decide +kernel

end EdgeDeviceCore.Ota
