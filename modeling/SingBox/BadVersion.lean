import Mathlib

/-!
# Version strings

`common/badversion/version.go`. `Parse` reads a version string into its three numbers and
either a pre-release identifier with its number or a commit suffix; the comparisons are
`GreaterThan`, a lexicographic order on the numbers and the pre-release, and
`GreaterThanOrEqual`, which is `GreaterThan` or equality of the whole structure.
`ktls_linux.go` compares a kernel release with such versions to decide its features.

Strings are the lists of their characters, so that a parse runs in the kernel. `Atoi` is
`strconv.Atoi` on a decimal string with the error dropped, as `Parse` drops it: a string
that is not a number gives `0`, one out of range the nearest `int`.

The struct equality inside `GreaterThanOrEqual` also compares the commit, which
`GreaterThan` ignores: a kernel release `6.1.0-13-amd64` is neither at least nor at most
`6.1.0` (`Parse_debianKernel_incomparable`), and the feature switch places it below 6.1.
-/

namespace SingBox

namespace BadVersion

structure Version where
  Major : Int
  Minor : Int
  Patch : Int
  Commit : List Char
  PreReleaseIdentifier : List Char
  PreReleaseVersion : Int
deriving DecidableEq, Repr

def parsePreReleaseIdentifier (identifier : List Char) : Nat :=
  if "rc".toList <+: identifier then 1
  else if "beta".toList <+: identifier then 2
  else if "alpha".toList <+: identifier then 3
  else 0

namespace Version

def GreaterThan (v anotherVersion : Version) : Bool :=
  if v.Major > anotherVersion.Major then true
  else if v.Major < anotherVersion.Major then false
  else if v.Minor > anotherVersion.Minor then true
  else if v.Minor < anotherVersion.Minor then false
  else if v.Patch > anotherVersion.Patch then true
  else if v.Patch < anotherVersion.Patch then false
  else if v.PreReleaseIdentifier = [] ∧ anotherVersion.PreReleaseIdentifier ≠ [] then true
  else if v.PreReleaseIdentifier ≠ [] ∧ anotherVersion.PreReleaseIdentifier = [] then false
  else if v.PreReleaseIdentifier ≠ [] ∧ anotherVersion.PreReleaseIdentifier ≠ [] then
    -- equal identifiers compare their numbers first; a tie goes on to the ranks
    let byNumber : Option Bool :=
      if v.PreReleaseIdentifier = anotherVersion.PreReleaseIdentifier then
        if v.PreReleaseVersion > anotherVersion.PreReleaseVersion then some true
        else if v.PreReleaseVersion < anotherVersion.PreReleaseVersion then some false
        else none
      else none
    match byNumber with
    | some result => result
    | none =>
      if parsePreReleaseIdentifier v.PreReleaseIdentifier <
          parsePreReleaseIdentifier anotherVersion.PreReleaseIdentifier then true
      else if parsePreReleaseIdentifier v.PreReleaseIdentifier >
          parsePreReleaseIdentifier anotherVersion.PreReleaseIdentifier then false
      else false
  else false

def GreaterThanOrEqual (v anotherVersion : Version) : Bool :=
  decide (v = anotherVersion) || v.GreaterThan anotherVersion

def LessThan (v anotherVersion : Version) : Bool :=
  !v.GreaterThanOrEqual anotherVersion

def LessThanOrEqual (v anotherVersion : Version) : Bool :=
  decide (v = anotherVersion) || anotherVersion.GreaterThan v

end Version

/-- `strconv.Atoi` with its error dropped: an optional sign and decimal digits, clamped to
the range of a 64-bit `int`; anything else is `0`. -/
def Atoi (s : List Char) : Int :=
  let (negative, digits) :=
    match s with
    | '-' :: rest => (true, rest)
    | '+' :: rest => (false, rest)
    | rest => (false, rest)
  if digits = [] ∨ ¬digits.all Char.isDigit then 0
  else
    let n : Nat := digits.foldl (fun acc c => acc * 10 + (c.toNat - '0'.toNat)) 0
    if negative then (if 2 ^ 63 < n then -2 ^ 63 else -(n : Int))
    else if 2 ^ 63 ≤ n then 2 ^ 63 - 1 else n

def Parse (versionName : List Char) : Version :=
  let versionName := if "v".toList <+: versionName then versionName.drop 1 else versionName
  let (versionName, commit, preReleaseIdentifier, preReleaseVersion) :=
    if '-' ∈ versionName then
      let parts := versionName.splitOn '-'
      let identifier := parts.getD 1 []
      if '.' ∈ identifier then
        let identifierParts := identifier.splitOn '.'
        (parts.getD 0 [], [], identifierParts.getD 0 [],
          if identifierParts.length ≥ 2 then Atoi (identifierParts.getD 1 []) else 0)
      else if "alpha".toList <+: identifier then
        (parts.getD 0 [], [], "alpha".toList, Atoi (identifier.drop 5))
      else if "beta".toList <+: identifier then
        (parts.getD 0 [], [], "beta".toList, Atoi (identifier.drop 4))
      else (parts.getD 0 [], identifier, [], 0)
    else (versionName, [], [], 0)
  let versionElements := versionName.splitOn '.'
  ⟨Atoi (versionElements.getD 0 []),
    if versionElements.length ≥ 2 then Atoi (versionElements.getD 1 []) else 0,
    if versionElements.length ≥ 3 then Atoi (versionElements.getD 2 []) else 0,
    commit, preReleaseIdentifier, preReleaseVersion⟩

namespace Version

theorem GreaterThan_irrefl (v : Version) : v.GreaterThan v = false := by
  unfold GreaterThan
  by_cases hpre : v.PreReleaseIdentifier = [] <;> simp [hpre]

theorem GreaterThanOrEqual_refl (v : Version) : v.GreaterThanOrEqual v = true := by
  simp [GreaterThanOrEqual]

theorem GreaterThan_of_commit {v w : Version} (hmajor : v.Major = w.Major)
    (hminor : v.Minor = w.Minor) (hpatch : v.Patch = w.Patch)
    (hpre : v.PreReleaseIdentifier = w.PreReleaseIdentifier)
    (hpreVersion : v.PreReleaseVersion = w.PreReleaseVersion) : v.GreaterThan w = false := by
  unfold GreaterThan
  rw [hmajor, hminor, hpatch, hpre, hpreVersion]
  by_cases hempty : w.PreReleaseIdentifier = [] <;> simp [hempty]

theorem not_GreaterThanOrEqual_of_commit_ne {v w : Version} (hmajor : v.Major = w.Major)
    (hminor : v.Minor = w.Minor) (hpatch : v.Patch = w.Patch)
    (hpre : v.PreReleaseIdentifier = w.PreReleaseIdentifier)
    (hpreVersion : v.PreReleaseVersion = w.PreReleaseVersion) (hcommit : v.Commit ≠ w.Commit) :
    v.GreaterThanOrEqual w = false ∧ w.GreaterThanOrEqual v = false := by
  have hne : v ≠ w := fun h => hcommit (h ▸ rfl)
  constructor
  · simp [GreaterThanOrEqual, hne, GreaterThan_of_commit hmajor hminor hpatch hpre hpreVersion]
  · simp [GreaterThanOrEqual, Ne.symm hne,
      GreaterThan_of_commit hmajor.symm hminor.symm hpatch.symm hpre.symm hpreVersion.symm]

end Version

/-- The thresholds of the feature switch of `KernelSupport`, highest first; the switch
enters at the first one the kernel release is at least. -/
def kernelThresholds : List Version :=
  [⟨6, 14, 0, [], [], 0⟩, ⟨6, 1, 0, [], [], 0⟩, ⟨6, 0, 0, [], [], 0⟩, ⟨5, 19, 0, [], [], 0⟩,
    ⟨5, 16, 0, [], [], 0⟩, ⟨5, 11, 0, [], [], 0⟩, ⟨5, 2, 0, [], [], 0⟩, ⟨5, 1, 0, [], [], 0⟩,
    ⟨4, 17, 0, [], [], 0⟩, ⟨4, 13, 0, [], [], 0⟩]

/-- The case the switch of `KernelSupport` enters: every feature of that case and of the
cases below it is enabled. -/
def kernelSupportCase (kernelVersion : Version) : Option Version :=
  kernelThresholds.find? kernelVersion.GreaterThanOrEqual

/-- A Debian kernel release: it parses with `13-amd64` cut to the commit `13`, and it is
neither at least nor at most the release `6.1.0` it is built from. -/
theorem Parse_debianKernel_incomparable :
    Parse "6.1.0-13-amd64".toList = ⟨6, 1, 0, "13".toList, [], 0⟩ ∧
      (Parse "6.1.0-13-amd64".toList).GreaterThanOrEqual (Parse "6.1.0".toList) = false ∧
      (Parse "6.1.0".toList).GreaterThanOrEqual (Parse "6.1.0-13-amd64".toList) = false ∧
      (Parse "6.1.0-13-amd64".toList).LessThan (Parse "6.1.0".toList) = true ∧
      (Parse "6.1.0".toList).LessThan (Parse "6.1.0-13-amd64".toList) = true ∧
      kernelSupportCase (Parse "6.1.0-13-amd64".toList) = some ⟨6, 0, 0, [], [], 0⟩ := by
  decide

end BadVersion

end SingBox
