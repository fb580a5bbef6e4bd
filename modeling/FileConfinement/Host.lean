import FileConfinement.Access
import FileConfinement.Errno
import FileConfinement.Path

/-!
# Hosts

The machine that a confinement runs on: what it reports about itself, which
files it has, and which of its system calls fail.
-/

namespace FileConfinement

/-- A file or directory of a host, with the calls on it that fail. -/
structure FileEntry where
  path : Path
  /-- Asking whether the path exists fails. -/
  statError : Option Errno
  /-- Opening the path fails. -/
  openError : Option Errno
  /-- Adding a rule for the path fails. -/
  ruleError : Option Errno
  /-- The bytes of a file; a directory has none. -/
  content : Option (List UInt8)
deriving DecidableEq, Repr

/-- A machine as its programs see it. -/
structure Host where
  /-- The kernel release. -/
  release : List UInt8
  /-- Asking for the kernel release fails. -/
  releaseError : Option Errno
  /-- The answer to the query for the version of the confinement interface. -/
  abi : Option Int
  /-- The user of the process. -/
  uid : UInt32
  /-- The variable `HOME` of the environment. -/
  homeVariable : Option Path
  /-- The home directories in the user database. -/
  userEntries : List (UInt32 × Path)
  /-- Looking up the user database fails. -/
  userEntryError : Option Errno
  /-- Creating a ruleset fails. -/
  createError : Option Errno
  /-- Giving up new privileges fails. -/
  privilegeError : Option Errno
  /-- Restricting the process fails. -/
  restrictError : Option Errno
  /-- Executing a program fails. -/
  executeError : Option Errno
  files : List FileEntry
deriving DecidableEq, Repr

namespace Host

/-- The entry of a path.  Paths are compared byte for byte and the first entry
counts. -/
def file? (host : Host) (path : Path) : Option FileEntry :=
  host.files.find? fun entry => entry.path = path

def pathExists (host : Host) (path : Path) : Bool :=
  !path.hasNul && match host.file? path with
    | some entry => entry.statError.isNone
    | none => false

/-- The error with which opening a path fails. -/
def openError? (host : Host) (path : Path) : Option Errno :=
  match host.file? path with
  | some entry => entry.openError
  | none => some .notFound

/-- The error with which adding a rule for a path fails. -/
def ruleError? (host : Host) (path : Path) : Option Errno :=
  (host.file? path).bind FileEntry.ruleError

/-- The version of the confinement interface, if the kernel offers it.  Only the last
32 bits of the answer count. -/
def abiVersion? (host : Host) : Option UInt32 :=
  match host.abi with
  | some version => if 0 < version then some (UInt32.ofNat version.toNat) else none
  | none => none

/-- The kernel release as text; it ends at the first zero byte. -/
def releaseText (host : Host) : String :=
  String.ofList (Utf8.display (host.release.takeWhile (· ≠ 0)))

end Host
end FileConfinement
