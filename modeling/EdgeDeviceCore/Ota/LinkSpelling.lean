import EdgeDeviceCore.Data.PathResolution
import EdgeDeviceCore.Ota.RunningDeployment

/-!
# Spellings of the active link

The script compares the text of `/opt/edc` with `/opt/edcA` and `/opt/edcB`, and takes the first
directory for any other text. A link may spell its directory in another way, such as `edcA`. Then
the first directory is chosen although the link resolves to it.
-/

open EdgeDeviceCore.Data EdgeDeviceCore.Semantics

namespace EdgeDeviceCore.Ota

open PathResolution

/-! ## Routes of path texts -/

def component (name : List Char) : Component (List Char) :=
  if name = [] then .same
  else if name = ['.'] then .same
  else if name = ['.', '.'] then .parent
  else .child name

/-- The route that a path text spells. -/
def route (text : Path) : Route (List Char) where
  absolute := text.toList.head? = some '/'
  components := (text.toList.splitOn '/').map component

/-- The number of links that the kernel follows for one path. -/
def maxLinks : ℕ := 40

/-- The file that an absolute path text leads to. -/
def resolvePath (tree : FileTree (List Char)) (text : Path) : Option (List (List Char)) :=
  resolve tree maxLinks [] (route text).components

/-- A file system in which `/opt/edc` is a link. -/
structure LinkedSystem where
  tree : FileTree (List Char)
  fs : FileSystem
  text : Path
  /-- The directory that `/opt` leads to. -/
  opt : List (List Char)
  resolvePath_opt : resolvePath tree "/opt" = some opt
  edc_eq : tree (opt ++ ["edc".toList]) = some (.link (route text))
  link_eq : fs.link .edc = .link text

/-- `/opt/edc` and another path lead to one directory. -/
def LinkedSystem.ResolvesTo (system : LinkedSystem) (directory : Path) : Prop :=
  ∃ place, resolvePath system.tree LinkPath.edc.path = some place ∧
    resolvePath system.tree directory = some place ∧ system.tree place = some .directory

/-- The script leaves alone the directory that `/opt/edc` resolves to. -/
structure PicksOther (system : LinkedSystem) (inputs : UpdateInputs) : Prop where
  first : system.ResolvesTo edcDirA →
    getTargetDeployment (inputs.readlink system.fs) = edcDirB
  second : system.ResolvesTo edcDirB →
    getTargetDeployment (inputs.readlink system.fs) = edcDirA
  spared : ∀ outcomes directory,
    Touches (runUpdate inputs outcomes system.fs).2.history directory →
      ¬ system.ResolvesTo directory

/-- `readlink` prints the path of the first directory. -/
def LinkedSystem.ReadsFirst (system : LinkedSystem) (inputs : UpdateInputs) : Prop :=
  inputs.readlinkSucceeds = true ∧ substituted system.text = edcDirA

theorem readlink_eq_edcDirA_iff (system : LinkedSystem) (inputs : UpdateInputs) :
    inputs.readlink system.fs = edcDirA ↔ system.ReadsFirst inputs := by
  rw [UpdateInputs.readlink, system.link_eq, LinkedSystem.ReadsFirst]
  cases inputs.readlinkSucceeds with
  | true => simp
  | false => simp [edcDirA]

theorem target_eq_edcDirB_iff_readsFirst (system : LinkedSystem) (inputs : UpdateInputs) :
    getTargetDeployment (inputs.readlink system.fs) = edcDirB ↔ system.ReadsFirst inputs :=
  target_eq_edcDirB_iff.trans (readlink_eq_edcDirA_iff system inputs)

theorem target_eq_edcDirA_iff_not_readsFirst (system : LinkedSystem) (inputs : UpdateInputs) :
    getTargetDeployment (inputs.readlink system.fs) = edcDirA ↔ ¬ system.ReadsFirst inputs := by
  rw [← target_eq_edcDirB_iff_readsFirst]
  constructor
  · intro hfirst hsecond
    exact edcDirB_ne_edcDirA (hsecond.symm.trans hfirst)
  · exact (target_cases inputs system.fs).resolve_right

/-- A link that is read as it resolves is never the target. -/
theorem picksOther_of_reads {system : LinkedSystem} {inputs : UpdateInputs}
    (hfirst : system.ResolvesTo edcDirA → system.ReadsFirst inputs)
    (hsecond : system.ResolvesTo edcDirB → ¬ system.ReadsFirst inputs) :
    PicksOther system inputs where
  first h := (target_eq_edcDirB_iff_readsFirst system inputs).mpr (hfirst h)
  second h := (target_eq_edcDirA_iff_not_readsFirst system inputs).mpr (hsecond h)
  spared outcomes directory htouches hresolves := by
    obtain ⟨-, rfl⟩ :=
      (UpdateRun.touches_iff ⟨inputs, outcomes⟩ system.fs directory).mp htouches
    rcases target_cases inputs system.fs with htarget | htarget
    · exact (target_eq_edcDirA_iff_not_readsFirst system inputs).mp htarget
        (hfirst (htarget ▸ hresolves))
    · exact hsecond (htarget ▸ hresolves)
        ((target_eq_edcDirB_iff_readsFirst system inputs).mp htarget)

/-- The active directory is never picked exactly when the link has the text `/opt/edcA` where it
resolves to the first directory, and has another where it resolves to the second. -/
theorem picksOther_iff (system : LinkedSystem) (inputs : UpdateInputs) :
    PicksOther system inputs ↔
      (system.ResolvesTo edcDirA → system.ReadsFirst inputs) ∧
        (system.ResolvesTo edcDirB → ¬ system.ReadsFirst inputs) := by
  constructor
  · intro h
    constructor
    · exact fun hfirst ↦ (target_eq_edcDirB_iff_readsFirst system inputs).mp (h.first hfirst)
    · exact fun hsecond ↦
        (target_eq_edcDirA_iff_not_readsFirst system inputs).mp (h.second hsecond)
  · exact fun h ↦ picksOther_of_reads h.1 h.2

/-- A device whose active link is spelled relative to its directory. -/
def relativeTree : FileTree (List Char) := fun path ↦
  if path = ["opt".toList, "edc".toList] then some (.link (route "edcA"))
  else if path ∈ [["opt".toList], ["opt".toList, "edcA".toList], ["opt".toList, "edcB".toList]] then
    some .directory
  else none

theorem resolvePath_relativeTree : resolvePath relativeTree "/opt" = some ["opt".toList] := by
  decide +kernel

theorem edc_relativeTree :
    relativeTree (["opt".toList] ++ ["edc".toList]) = some (.link (route "edcA")) := by
  decide +kernel

def relativeFiles : FileSystem where
  link
    | .edc => .link "edcA"
    | .senscord => .absent
  node _ := .absent

def relativeSystem : LinkedSystem where
  tree := relativeTree
  fs := relativeFiles
  text := "edcA"
  opt := ["opt".toList]
  resolvePath_opt := resolvePath_relativeTree
  edc_eq := edc_relativeTree
  link_eq := rfl

theorem resolvesTo_relativeSystem : relativeSystem.ResolvesTo edcDirA := by
  refine ⟨["opt".toList, "edcA".toList], ?_, ?_, ?_⟩
  · decide +kernel
  · decide +kernel
  · decide +kernel

/-- The directory that a relative link resolves to is the target. -/
theorem not_picksOther_relativeSystem : ¬ PicksOther relativeSystem updateToTwo := by
  intro h
  have htarget := h.first resolvesTo_relativeSystem
  revert htarget
  decide +kernel

/-! ## Links that the script makes -/

section OwnLinks

variable {system : LinkedSystem} {inputs : UpdateInputs}

/-- Below a plain `/opt` the link leads where its text leads. -/
theorem resolvePath_edc (hopt : system.tree ["opt".toList] = some .directory) :
    resolvePath system.tree LinkPath.edc.path =
      resolve system.tree 39 ((route system.text).start ["opt".toList])
        (route system.text).components := by
  have hroute : (route "/opt").components = [.same, .child "opt".toList] := by decide +kernel
  have hedc : (route LinkPath.edc.path).components =
      [.same, .child "opt".toList, .child "edc".toList] := by decide +kernel
  have hplace : system.opt = ["opt".toList] := by
    have hresolved := system.resolvePath_opt
    rw [resolvePath, hroute, resolve_same, resolve_directory hopt, resolve_nil] at hresolved
    exact (Option.some.inj hresolved).symm
  have hlink := system.edc_eq
  rw [hplace] at hlink
  rw [resolvePath, hedc, resolve_same, resolve_directory hopt]
  calc resolve system.tree (39 + 1) ["opt".toList] [.child "edc".toList]
      = resolve system.tree 39 ((route system.text).start ["opt".toList])
          ((route system.text).components ++ []) := resolve_link hlink
    _ = _ := by rw [List.append_nil]

/-- A link with an absolute text leads to the directory of that text. -/
theorem resolvePath_text (hopt : system.tree ["opt".toList] = some .directory)
    (habsolute : (route system.text).absolute = true) {place : List (List Char)}
    (h : resolvePath system.tree LinkPath.edc.path = some place) :
    resolvePath system.tree system.text = some place := by
  rw [resolvePath_edc hopt, Route.start, if_pos habsolute] at h
  exact resolve_succ h

/-- The links that the script makes are read as they resolve, if its two directories are not one
and `readlink` does not fail. -/
theorem picksOther_of_own_text (hopt : system.tree ["opt".toList] = some .directory)
    (htext : system.text = edcDirA ∨ system.text = edcDirB)
    (hdistinct : ∀ place, resolvePath system.tree edcDirA = some place →
      resolvePath system.tree edcDirB ≠ some place)
    (hreads : inputs.readlinkSucceeds = true) : PicksOther system inputs := by
  have habsolute : (route system.text).absolute = true := by
    rcases htext with htext | htext <;> rw [htext] <;> decide +kernel
  apply picksOther_of_reads
  · rintro ⟨place, hedc, hfirst, -⟩
    rcases htext with htext | htext
    · refine ⟨hreads, ?_⟩
      rw [htext]
      decide +kernel
    · exact absurd (htext ▸ resolvePath_text hopt habsolute hedc) (hdistinct place hfirst)
  · rintro ⟨place, hedc, hsecond, -⟩ ⟨-, hread⟩
    rcases htext with htext | htext
    · exact hdistinct place (htext ▸ resolvePath_text hopt habsolute hedc) hsecond
    · rw [htext] at hread
      exact absurd hread (by decide +kernel)

end OwnLinks

end EdgeDeviceCore.Ota
