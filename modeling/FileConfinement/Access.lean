/-!
# Access rights and access classes

The thirteen elementary file-system rights that a ruleset handles, the sets of
rights that a rule grants, and the four classes of operations that people name
when they ask for a rule.  Every right belongs to exactly one class.
-/

namespace FileConfinement

/-- An elementary right to a file or directory. -/
inductive Right where
  | execute
  | writeFile
  | readFile
  | readDirectory
  | removeDirectory
  | removeFile
  | makeCharacterDevice
  | makeDirectory
  | makeRegular
  | makeSocket
  | makeFifo
  | makeBlockDevice
  | makeSymbolicLink
deriving DecidableEq, Repr

namespace Right

/-- Every right, in the order of their bits. -/
def all : List Right :=
  [execute, writeFile, readFile, readDirectory, removeDirectory, removeFile,
    makeCharacterDevice, makeDirectory, makeRegular, makeSocket, makeFifo,
    makeBlockDevice, makeSymbolicLink]

/-- The position of a right's bit in a mask. -/
def bit : Right → Nat
  | execute => 0
  | writeFile => 1
  | readFile => 2
  | readDirectory => 3
  | removeDirectory => 4
  | removeFile => 5
  | makeCharacterDevice => 6
  | makeDirectory => 7
  | makeRegular => 8
  | makeSocket => 9
  | makeFifo => 10
  | makeBlockDevice => 11
  | makeSymbolicLink => 12

theorem mem_all (right : Right) : right ∈ all := by
  cases right <;> decide

theorem bit_injective {first second : Right} (same : first.bit = second.bit) :
    first = second := by
  revert same
  cases first <;> cases second <;> decide

end Right

/-- A set of rights, as the bit mask that the kernel takes. -/
structure AccessMask where
  bits : Nat
deriving DecidableEq, Repr

namespace AccessMask

def carries (mask : AccessMask) (right : Right) : Bool :=
  mask.bits.testBit right.bit

def ofRights (rights : List Right) : AccessMask :=
  ⟨rights.foldl (fun bits right => bits ||| 1 <<< right.bit) 0⟩

def union (first second : AccessMask) : AccessMask :=
  ⟨first.bits ||| second.bits⟩

/-- Every right that a ruleset declares as handled. -/
def handled : AccessMask := ofRights Right.all

@[simp] theorem carries_union (first second : AccessMask) (right : Right) :
    (first.union second).carries right = (first.carries right || second.carries right) := by
  simp [carries, union]

theorem handled_bits : handled.bits = 8191 := by decide

theorem carries_handled (right : Right) : handled.carries right = true := by
  cases right <;> decide

/-- A mask in hexadecimal, with at least four digits. -/
def hexText (mask : AccessMask) : String :=
  let digits := Nat.toDigits 16 mask.bits
  String.ofList (['0', 'x'] ++ List.replicate (4 - digits.length) '0' ++ digits)

end AccessMask

/-- A group of operations that are granted together beneath a path. -/
inductive AccessClass where
  /-- Read files and list directories. -/
  | read
  /-- Write, remove and create files, directories, symbolic links and character
  devices. -/
  | write
  /-- Create sockets, fifos and block devices. -/
  | special
  /-- Execute files. -/
  | execute
deriving DecidableEq, Repr

namespace AccessClass

/-- Every class, in the order in which they are listed. -/
def all : List AccessClass := [read, write, special, execute]

def rights : AccessClass → List Right
  | read => [.readFile, .readDirectory]
  | write =>
      [.writeFile, .removeFile, .removeDirectory, .makeCharacterDevice, .makeDirectory,
        .makeRegular, .makeSymbolicLink]
  | special => [.makeSocket, .makeFifo, .makeBlockDevice]
  | execute => [.execute]

/-- The mask of the rights that a class grants. -/
def mask (accessClass : AccessClass) : AccessMask :=
  AccessMask.ofRights accessClass.rights

/-- The one class that grants a right. -/
def owner : Right → AccessClass
  | .readFile | .readDirectory => read
  | .makeSocket | .makeFifo | .makeBlockDevice => special
  | .execute => execute
  | _ => write

def name : AccessClass → String
  | read => "read"
  | write => "write"
  | special => "special"
  | execute => "execute"

/-- The word that asks for a class in a configuration line. -/
def keyword : AccessClass → String
  | read => "landlock.read"
  | write => "landlock.write"
  | special => "landlock.special"
  | execute => "landlock.execute"

/-- The class that a configuration word asks for. -/
def ofKeyword? (word : String) : Option AccessClass :=
  all.find? fun accessClass => accessClass.keyword = word

theorem mem_all (accessClass : AccessClass) : accessClass ∈ all := by
  cases accessClass <;> decide

theorem mem_rights_iff (accessClass : AccessClass) (right : Right) :
    right ∈ accessClass.rights ↔ owner right = accessClass := by
  cases accessClass <;> cases right <;> decide

/-- A class's mask carries exactly the rights that the class owns. -/
theorem carries_mask (accessClass : AccessClass) (right : Right) :
    accessClass.mask.carries right = decide (owner right = accessClass) := by
  cases accessClass <;> cases right <;> decide

theorem keyword_injective {first second : AccessClass}
    (same : first.keyword = second.keyword) : first = second := by
  cases first <;> cases second <;> first | rfl | exact absurd same (by decide)

@[simp] theorem ofKeyword?_keyword (accessClass : AccessClass) :
    ofKeyword? accessClass.keyword = some accessClass := by
  cases accessClass <;> decide

end AccessClass

end FileConfinement
