import FileConfinement.Text.Blank

/-!
# Kernel versions

The major and minor number at the head of a kernel release, their order, and the
oldest version that confinement is applied on.
-/

namespace FileConfinement

/-- The first two numbers of a kernel release. -/
structure KernelVersion where
  major : UInt32
  minor : UInt32
deriving DecidableEq, Repr

namespace KernelVersion

/-- The oldest kernel that can confine file access. -/
def oldestSupported : KernelVersion := ⟨6, 1⟩

/-- Versions are compared by major number and then by minor number. -/
def compareTo (first second : KernelVersion) : Ordering :=
  (compare first.major.toNat second.major.toNat).then
    (compare first.minor.toNat second.minor.toNat)

/-- Whether a kernel of this version can confine file access. -/
def isSupported (version : KernelVersion) : Bool :=
  (compareTo version oldestSupported).isGE

/-- A version as it is written, with a dot between the numbers. -/
def display (version : KernelVersion) : String :=
  s!"{version.major.toNat}.{version.minor.toNat}"

/-- The value of a run of decimal digits. -/
def decimalValue (digits : List Char) : Nat :=
  digits.foldl (fun value digit => value * 10 + (digit.toNat - '0'.toNat)) 0

/-- The number at the head of a text, with the rest of the text.  The text must
begin with a digit and the number must fit in 32 bits. -/
def leadingNumber? (text : List Char) : Option (UInt32 × List Char) :=
  let digits := text.takeWhile Char.isDigit
  if digits.isEmpty then
    none
  else if decimalValue digits < UInt32.size then
    some (UInt32.ofNat (decimalValue digits), text.dropWhile Char.isDigit)
  else
    none

/-- The version at the head of a release text: after blanks, a number, a dot and
a number. -/
def ofReleaseText? (release : List Char) : Option KernelVersion :=
  match leadingNumber? (Text.trimStart release) with
  | some (major, '.' :: rest) =>
      match leadingNumber? rest with
      | some (minor, _) => some ⟨major, minor⟩
      | none => none
  | _ => none

/-- The version at the head of a release such as `6.5.0-14-generic`. -/
def ofRelease? (release : String) : Option KernelVersion :=
  ofReleaseText? release.toList

theorem isSupported_iff (version : KernelVersion) :
    version.isSupported = true ↔
      6 < version.major.toNat ∨ (version.major.toNat = 6 ∧ 1 ≤ version.minor.toNat) := by
  have major : oldestSupported.major.toNat = 6 := rfl
  have minor : oldestSupported.minor.toNat = 1 := rfl
  rw [isSupported, compareTo, major, minor]
  rcases Nat.lt_trichotomy version.major.toNat 6 with lower | equal | higher
  · rw [Nat.compare_eq_lt.mpr lower]
    simp only [Ordering.then, Ordering.isGE, Bool.false_eq_true, false_iff]
    omega
  · rw [Nat.compare_eq_eq.mpr equal]
    simp only [Ordering.then, Nat.isGE_compare]
    omega
  · rw [Nat.compare_eq_gt.mpr higher]
    simp only [Ordering.then, Ordering.isGE, true_iff]
    omega

end KernelVersion
end FileConfinement
