import FileConfinement.Proofs.DirectiveGrammar
import FileConfinement.Support

/-!
# The grammar of kernel releases

A release is spelled as blanks, the digits of two numbers with a dot between them, and a rest that
does not go on with a digit.  Such a release has the version of its numbers if both of them fit in
32 bits.  Every other release is refused and quoted as it is.  What is decided from a version is
monotone in the numerical order of versions, and a version that is written is read back.
-/

namespace FileConfinement

theorem Text.isBlank_of_isDigit {digit : Char} (isDigit : digit.isDigit = true) :
    isBlank digit = false := by
  rw [Char.isDigit_iff_toNat] at isDigit
  simp only [Char.reduceToNat] at isDigit
  exact isBlank_of_toNat (by omega) (by omega)

namespace KernelVersion

theorem decimalValue_eq (digits : List Char) :
    decimalValue digits = Nat.ofDigitChars 10 digits 0 := by
  simp only [decimalValue, Nat.ofDigitChars, Nat.mul_comm]

/-- Digits are read to their end, as the number that they spell or not at all. -/
theorem leadingNumber?_append {digits rest : List Char} (nonempty : digits ≠ [])
    (allDigits : ∀ digit ∈ digits, digit.isDigit = true)
    (ends : ∀ character ∈ rest.head?, character.isDigit = false) :
    leadingNumber? (digits ++ rest) =
      if Nat.ofDigitChars 10 digits 0 < UInt32.size then
        some (.ofNat (Nat.ofDigitChars 10 digits 0), rest)
      else
        none := by
  have taken := Text.takeWhile_of_boundary allDigits ends
  have left : (digits ++ rest).dropWhile Char.isDigit = rest := by
    have whole := List.takeWhile_append_dropWhile (p := Char.isDigit) (l := digits ++ rest)
    rw [taken] at whole
    exact List.append_cancel_left whole
  rw [leadingNumber?, taken, left, decimalValue_eq]
  simp [nonempty]

/-- Only digits that spell a number of 32 bits are read. -/
theorem exists_of_leadingNumber? {text rest : List Char} {number : UInt32}
    (read : leadingNumber? text = some (number, rest)) :
    ∃ digits, text = digits ++ rest ∧ digits ≠ [] ∧ (∀ digit ∈ digits, digit.isDigit = true) ∧
      (∀ character ∈ rest.head?, character.isDigit = false) ∧
      Nat.ofDigitChars 10 digits 0 = number.toNat := by
  simp only [leadingNumber?] at read
  split at read
  · exact absurd read (by simp)
  next nonempty =>
    split at read
    next fits =>
      obtain ⟨rfl, rfl⟩ : .ofNat (decimalValue (text.takeWhile Char.isDigit)) = number ∧
          text.dropWhile Char.isDigit = rest := by
        simpa using read
      refine ⟨text.takeWhile Char.isDigit, List.takeWhile_append_dropWhile.symm, ?_, ?_, ?_, ?_⟩
      · simpa using nonempty
      · exact fun digit member => List.mem_takeWhile_imp member
      · intro character isFirst
        have stopped := List.head?_dropWhile_not Char.isDigit text
        rw [Option.mem_def.mp isFirst] at stopped
        simpa using stopped
      · rw [← decimalValue_eq, UInt32.toNat_ofNat_of_lt' fits]
    · exact absurd read (by simp)

/-- A way to spell a release that begins with two numbers. -/
structure Spelling where
  lead : List Char
  major : List Char
  minor : List Char
  rest : List Char
  lead_blank : ∀ character ∈ lead, Text.isBlank character = true
  major_ne_nil : major ≠ []
  major_digits : ∀ digit ∈ major, digit.isDigit = true
  minor_ne_nil : minor ≠ []
  minor_digits : ∀ digit ∈ minor, digit.isDigit = true
  rest_ends : ∀ character ∈ rest.head?, character.isDigit = false

namespace Spelling

def release (spelling : Spelling) : List Char :=
  spelling.lead ++ (spelling.major ++ '.' :: (spelling.minor ++ spelling.rest))

/-- The number in front of the dot, whatever its size. -/
def majorNumber (spelling : Spelling) : Nat := Nat.ofDigitChars 10 spelling.major 0

/-- The number behind the dot, whatever its size. -/
def minorNumber (spelling : Spelling) : Nat := Nat.ofDigitChars 10 spelling.minor 0

theorem trimStart_release (spelling : Spelling) :
    Text.trimStart spelling.release =
      spelling.major ++ '.' :: (spelling.minor ++ spelling.rest) := by
  rw [Text.trimStart, release, List.dropWhile_append_of_pos spelling.lead_blank]
  cases digits : spelling.major with
  | nil => exact absurd digits spelling.major_ne_nil
  | cons digit digits' =>
      have isDigit := spelling.major_digits digit (by simp [digits])
      simp [Text.isBlank_of_isDigit isDigit]

theorem ofReleaseText?_release (spelling : Spelling) :
    ofReleaseText? spelling.release =
      if spelling.majorNumber < UInt32.size ∧ spelling.minorNumber < UInt32.size then
        some ⟨.ofNat spelling.majorNumber, .ofNat spelling.minorNumber⟩
      else
        none := by
  have first : leadingNumber? (spelling.major ++ '.' :: (spelling.minor ++ spelling.rest)) =
      if spelling.majorNumber < UInt32.size then
        some (.ofNat spelling.majorNumber, '.' :: (spelling.minor ++ spelling.rest))
      else
        none :=
    leadingNumber?_append spelling.major_ne_nil spelling.major_digits (by simp)
  have second : leadingNumber? (spelling.minor ++ spelling.rest) =
      if spelling.minorNumber < UInt32.size then
        some (.ofNat spelling.minorNumber, spelling.rest)
      else
        none :=
    leadingNumber?_append spelling.minor_ne_nil spelling.minor_digits spelling.rest_ends
  rw [ofReleaseText?, trimStart_release, first]
  by_cases fits : spelling.majorNumber < UInt32.size
  · by_cases fits' : spelling.minorNumber < UInt32.size <;> simp [fits, second, fits']
  · simp [fits]

/-- A release that is read as a version is spelled with its numbers. -/
theorem exists_of_ofReleaseText? {release : List Char} {version : KernelVersion}
    (read : ofReleaseText? release = some version) :
    ∃ spelling : Spelling, spelling.release = release ∧
      spelling.majorNumber = version.major.toNat ∧
      spelling.minorNumber = version.minor.toNat := by
  simp only [ofReleaseText?] at read
  split at read
  next number behind first =>
    split at read
    next number' rest second =>
      obtain rfl := Option.some.inj read
      obtain ⟨major, whole, major_ne_nil, major_digits, _, majors⟩ :=
        exists_of_leadingNumber? first
      obtain ⟨minor, rfl, minor_ne_nil, minor_digits, rest_ends, minors⟩ :=
        exists_of_leadingNumber? second
      let spelling : Spelling := {
        lead := release.takeWhile Text.isBlank
        major, minor, rest
        lead_blank := fun character member => List.mem_takeWhile_imp member
        major_ne_nil, major_digits, minor_ne_nil, minor_digits, rest_ends }
      refine ⟨spelling, ?_, majors, minors⟩
      rw [Spelling.release, ← whole]
      exact List.takeWhile_append_dropWhile
    next => exact absurd read (by simp)
  next => exact absurd read (by simp)

end Spelling

theorem ofRelease_eq_ok_iff {release : String} {version : KernelVersion} :
    ofRelease release = .ok version ↔
      ∃ spelling : Spelling, spelling.release = release.toList ∧
        spelling.majorNumber = version.major.toNat ∧
        spelling.minorNumber = version.minor.toNat := by
  have ok_iff : ofRelease release = .ok version ↔
      ofReleaseText? release.toList = some version := by
    rw [ofRelease, ofRelease?]
    cases ofReleaseText? release.toList <;> simp
  rw [ok_iff]
  constructor
  · exact Spelling.exists_of_ofReleaseText?
  · rintro ⟨spelling, spelled, majors, minors⟩
    rw [← spelled, spelling.ofReleaseText?_release, majors, minors,
      if_pos ⟨version.major.toNat_lt, version.minor.toNat_lt⟩, UInt32.ofNat_toNat,
      UInt32.ofNat_toNat]

theorem ofRelease_eq_error_iff {release : String} {failure : Failure} :
    ofRelease release = .error failure ↔
      failure = .environment (.unversionedRelease release) ∧
        ∀ spelling : Spelling, spelling.release = release.toList →
          UInt32.size ≤ spelling.majorNumber ∨ UInt32.size ≤ spelling.minorNumber := by
  have error_iff : ofRelease release = .error failure ↔
      failure = .environment (.unversionedRelease release) ∧
        ofReleaseText? release.toList = none := by
    rw [ofRelease, ofRelease?]
    cases ofReleaseText? release.toList <;> simp [eq_comm]
  rw [error_iff]
  refine and_congr_right fun _ => ⟨?_, ?_⟩
  · intro unread spelling spelled
    rw [← spelled, spelling.ofReleaseText?_release] at unread
    by_contra fits
    rw [not_or, Nat.not_le, Nat.not_le] at fits
    exact absurd (unread.symm.trans (if_pos fits)) (by simp)
  · intro overflows
    by_contra read
    obtain ⟨version, read⟩ := Option.ne_none_iff_exists'.mp read
    obtain ⟨spelling, spelled, majors, minors⟩ := Spelling.exists_of_ofReleaseText? read
    have major : version.major.toNat < UInt32.size := version.major.toNat_lt
    have minor : version.minor.toNat < UInt32.size := version.minor.toNat_lt
    have overflow := overflows spelling spelled
    omega

/-- A version as it is written, in front of a rest that does not go on with a digit. -/
def written (version : KernelVersion) (rest : List Char)
    (ends : ∀ character ∈ rest.head?, character.isDigit = false) : Spelling where
  lead := []
  major := Nat.toDigits 10 version.major.toNat
  minor := Nat.toDigits 10 version.minor.toNat
  rest := rest
  lead_blank := by simp
  major_ne_nil := Nat.toDigits_ne_nil
  major_digits _ := Nat.isDigit_of_mem_toDigits (by decide) (by decide)
  minor_ne_nil := Nat.toDigits_ne_nil
  minor_digits _ := Nat.isDigit_of_mem_toDigits (by decide) (by decide)
  rest_ends := ends

theorem toList_display (version : KernelVersion) :
    version.display.toList =
      Nat.toDigits 10 version.major.toNat ++ '.' :: Nat.toDigits 10 version.minor.toNat := by
  have joined : version.display =
      toString version.major.toNat ++ "." ++ toString version.minor.toNat := rfl
  simp [joined]

theorem ofRelease_display_append (version : KernelVersion) {rest : String}
    (ends : ∀ character ∈ rest.toList.head?, character.isDigit = false) :
    ofRelease (version.display ++ rest) = .ok version := by
  refine ofRelease_eq_ok_iff.mpr ⟨version.written rest.toList ends, ?_, ?_, ?_⟩
  · rw [String.toList_append, toList_display]
    simp [Spelling.release, written]
  · exact Nat.ofDigitChars_ten_toDigits
  · exact Nat.ofDigitChars_ten_toDigits

/-- Versions are ordered by their major numbers and, where these agree, by their minor numbers. -/
theorem isLE_compareTo_iff {first second : KernelVersion} :
    (first.compareTo second).isLE = true ↔
      first.major.toNat < second.major.toNat ∨
        first.major.toNat = second.major.toNat ∧ first.minor.toNat ≤ second.minor.toNat := by
  rw [compareTo]
  rcases Nat.lt_trichotomy first.major.toNat second.major.toNat with lower | equal | higher
  · simp [Nat.compare_eq_lt.mpr lower, Ordering.then, lower]
  · simp [Ordering.then, equal, Nat.isLE_compare]
  · simp only [Nat.compare_eq_gt.mpr higher, Ordering.then, Ordering.isLE, Bool.false_eq_true,
      false_iff]
    omega

theorem isSupported_of_isLE {older newer : KernelVersion}
    (le : (older.compareTo newer).isLE = true) (supported : older.isSupported = true) :
    newer.isSupported = true := by
  rw [isLE_compareTo_iff] at le
  rw [isSupported_iff] at supported ⊢
  omega

end KernelVersion

/-- A release is read as a version exactly if it is spelled with the numbers of that version, and it
is refused exactly if it is spelled with no two numbers of 32 bits; then it is quoted as it is.  A
version is supported from 6.1 on, in the numerical order of versions.  What is written of a version
is read back, whatever follows it that is no digit. -/
theorem release_is_read_exactly (release : String) :
    (∀ version, KernelVersion.ofRelease release = .ok version ↔
      ∃ spelling : KernelVersion.Spelling, spelling.release = release.toList ∧
        spelling.majorNumber = version.major.toNat ∧
        spelling.minorNumber = version.minor.toNat) ∧
    (∀ failure, KernelVersion.ofRelease release = .error failure ↔
      failure = .environment (.unversionedRelease release) ∧
        ∀ spelling : KernelVersion.Spelling, spelling.release = release.toList →
          UInt32.size ≤ spelling.majorNumber ∨ UInt32.size ≤ spelling.minorNumber) ∧
    (∀ failure, KernelVersion.ofRelease release = .error failure →
      failure.message =
        "Environment incompatible: cannot extract Linux kernel version: " ++ release) ∧
    (∀ version : KernelVersion, version.isSupported = true ↔
      6 < version.major.toNat ∨ version.major.toNat = 6 ∧ 1 ≤ version.minor.toNat) ∧
    (∀ first second : KernelVersion, (first.compareTo second).isLE = true ↔
      first.major.toNat < second.major.toNat ∨
        first.major.toNat = second.major.toNat ∧ first.minor.toNat ≤ second.minor.toNat) ∧
    (∀ older newer : KernelVersion, (older.compareTo newer).isLE = true →
      older.isSupported = true → newer.isSupported = true) ∧
    ∀ (version : KernelVersion) (rest : String),
      (∀ character ∈ rest.toList.head?, character.isDigit = false) →
        KernelVersion.ofRelease (version.display ++ rest) = .ok version := by
  refine ⟨fun version => KernelVersion.ofRelease_eq_ok_iff,
    fun failure => KernelVersion.ofRelease_eq_error_iff, ?_, KernelVersion.isSupported_iff,
    fun first second => KernelVersion.isLE_compareTo_iff,
    fun older newer => KernelVersion.isSupported_of_isLE,
    fun version rest => version.ofRelease_display_append⟩
  intro failure refused
  obtain ⟨rfl, _⟩ := KernelVersion.ofRelease_eq_error_iff.mp refused
  rfl

example : KernelVersion.ofRelease "\u2003006.1\u0661-rc" = .ok ⟨6, 1⟩ := by decide

end FileConfinement
