import Mathlib.Tactic.SplitIfs

/-!
# Building the package

`mk-deb.sh` reads its options, writes the control file and has `dpkg-deb` put the package together.
A build here is one whose commands all succeed; what it copies into the package is left out.
-/

namespace EdgeDeviceCore.Package

structure BuildOptions where
  arch : String
  version : String
  buildroot : String
deriving DecidableEq, Repr

/-- What the script takes from elsewhere. -/
structure BuildEnvironment where
  /-- Variables that are not set at the start of the script; an empty text if nobody has. -/
  debarch : String
  buildroot : String
  /-- The maintainer that the control file names. -/
  maintainer : String
  one_line : '\n' ∉ maintainer.toList

/-- The options, unless the script leaves with its usage. -/
def parseOptions : List String → BuildOptions → Option BuildOptions
  | [], options => some options
  | "-a" :: arch :: arguments, options => parseOptions arguments { options with arch := arch }
  | "-V" :: version :: arguments, options =>
      parseOptions arguments { options with version := version }
  | "-d" :: buildroot :: arguments, options =>
      parseOptions arguments { options with buildroot := buildroot }
  | _ :: _, _ => none

/-- The first `case`, which leaves `debarch` as it is for another architecture. -/
def debarchOf (environment : BuildEnvironment) (arch : String) : String :=
  if arch = "aarch64" then "arm64"
  else if arch = "x86_64" then "amd64"
  else environment.debarch

/-- The lines of `DEBIAN/control`. -/
def controlLines (version debarch maintainer : String) : List (List Char) :=
  ["Package: edge-device-core".toList,
    "Section: contrib/misc".toList,
    "Version: ".toList ++ version.toList,
    "Priority: optional".toList,
    "Architecture: ".toList ++ debarch.toList,
    "Maintainer: ".toList ++ maintainer.toList,
    ("Depends: libc6 (>= 2.35), ca-certificates, libjpeg62-turbo, sqlite3, libsqlite3-dev, " ++
      "libnm-dev, libopencv-dev").toList,
    "Description: AITRIOS Edge Device Core".toList,
    " This package provides the Sony AITRIOS Edge Device Core".toList]

structure BuiltPackage where
  version : String
  debarch : String
  directory : String
  fileName : List Char
  control : List (List Char)

/-- One build. The second `case` leaves for an architecture that it does not know. -/
def mkDeb (environment : BuildEnvironment) (arguments : List String) : Option BuiltPackage := do
  let options ← parseOptions arguments ⟨"amd64", "0.0.0", environment.buildroot⟩
  let debarch := debarchOf environment options.arch
  if debarch = "arm64" ∨ debarch = "amd64" then
    some
      { version := options.version
        debarch := debarch
        directory := options.buildroot
        fileName := "edge-device-core-".toList ++ options.version.toList ++ '_' ::
          debarch.toList ++ ".deb".toList
        control := controlLines options.version debarch environment.maintainer }
  else none

/-- What is known of a build. -/
theorem mkDeb_eq_some {environment : BuildEnvironment} {arguments : List String}
    {package : BuiltPackage} (h : mkDeb environment arguments = some package) :
    (package.debarch = "arm64" ∨ package.debarch = "amd64") ∧
      package.fileName = "edge-device-core-".toList ++ package.version.toList ++ '_' ::
        package.debarch.toList ++ ".deb".toList ∧
      package.control =
        controlLines package.version package.debarch environment.maintainer := by
  obtain ⟨options, -, hsome⟩ := Option.bind_eq_some_iff.mp h
  dsimp only at hsome
  split_ifs at hsome with harch
  obtain rfl := Option.some.inj hsome
  exact ⟨harch, rfl, rfl⟩

/-- The default architecture is none that the first `case` knows. -/
example : mkDeb ⟨"", "", "", by decide +kernel⟩ ["-V", "2.0.0"] = none := by decide +kernel

end EdgeDeviceCore.Package
