import FileConfinement.Document.Fault
import FileConfinement.Errno
import FileConfinement.Path

/-!
# Failures

Everything that can go wrong while a context is loaded, a ruleset is filled or
the restriction is put in force, by its cause, and the text that tells people
about it.  Each kind admits a cause that is described in free text.
-/

namespace FileConfinement

/-- Why an operation on a file or on the kernel's side of a ruleset failed. -/
inductive IoFault where
  /-- The system call failed. -/
  | code (errno : Errno)
  /-- The path holds a zero byte and reached no system call. -/
  | nulInPath
  /-- The content of a file is no text. -/
  | notText
  /-- The home directory of the confined user is unknown. -/
  | homeUnresolved
  | described (text : String)
deriving DecidableEq, Repr

/-- What happened. -/
def IoFault.message : IoFault → String
  | code errno => errno.message
  | nulInPath => "file name contained an unexpected NUL byte"
  | notText => "stream did not contain valid UTF-8"
  | homeUnresolved => "home directory could not be resolved"
  | described text => text

/-- Why a query about the system failed. -/
inductive QueryFault where
  | release (errno : Errno)
  | userEntry (errno : Errno)
  | described (text : String)
deriving DecidableEq, Repr

/-- What happened. -/
def QueryFault.message : QueryFault → String
  | release errno => s!"uname failed: {errno.namedMessage}"
  | userEntry errno => s!"getpwuid_r failed: {errno.namedMessage}"
  | described text => text

/-- Why no ruleset could be had. -/
inductive RulesetFault where
  | creation (errno : Errno)
  | described (text : String)
deriving DecidableEq, Repr

/-- What happened. -/
def RulesetFault.message : RulesetFault → String
  | creation errno => s!"landlock_create_ruleset failed: {errno.message}"
  | described text => text

/-- Why the system cannot be reasoned about. -/
inductive EnvironmentFault where
  /-- The kernel release does not begin with a version. -/
  | unversionedRelease (release : String)
  | described (text : String)
deriving DecidableEq, Repr

/-- What happened. -/
def EnvironmentFault.message : EnvironmentFault → String
  | unversionedRelease release => s!"cannot extract Linux kernel version: {release}"
  | described text => text

/-- Why a configuration is unusable. -/
inductive ConfigurationFault where
  | directive (fault : DirectiveFault)
  | document (error : Document.Error)
  | file (path : Path) (error : Document.Error)
  /-- The user database has no entry for the confined user. -/
  | unknownUser (uid : UInt32)
  | described (text : String)
deriving DecidableEq, Repr

/-- What happened. -/
def ConfigurationFault.message : ConfigurationFault → String
  | directive fault => fault.message
  | document error => error.message
  | file path error => s!"{path.display}: {error.message}"
  | unknownUser uid => s!"no passwd entry for uid {uid.toNat}"
  | described text => text

/-- A failure, by its cause. -/
inductive Failure where
  /-- A configuration file cannot be read. -/
  | io (fault : IoFault)
  | query (fault : QueryFault)
  | ruleset (fault : RulesetFault)
  | environment (fault : EnvironmentFault)
  /-- A rule for a path could not be added. -/
  | insertion (path : Path) (fault : IoFault)
  /-- The restriction could not be put in force. -/
  | commit (fault : IoFault)
  /-- The restriction is in force already. -/
  | alreadyEnforced
  | configuration (fault : ConfigurationFault)
deriving DecidableEq, Repr

namespace Failure

/-- What people are told. -/
def message : Failure → String
  | io fault => s!"IO error: {fault.message}"
  | query fault => s!"Syscall error: {fault.message}"
  | ruleset fault => s!"Landlock error: {fault.message}"
  | environment fault => s!"Environment incompatible: {fault.message}"
  | insertion path fault => s!"Failed to add Landlock rule for {path.display}: {fault.message}"
  | commit fault => s!"Landlock restrict-self failed: {fault.message}"
  | alreadyEnforced => "Ruleset already enforced"
  | configuration fault => s!"Invalid configuration: {fault.message}"

/-- A failure to read a document, with the file that holds the document. -/
def inFile (path : Path) : Failure → Failure
  | configuration (.document error) => configuration (.file path error)
  | failure => failure

/-- Whether a failure leaves the process unconfined although the restriction was
to be put in force. -/
def isCommitFailure : Failure → Bool
  | commit _ => true
  | _ => false

/-- The fault of the operation underneath, where there is one. -/
def source? : Failure → Option IoFault
  | io fault | insertion _ fault | commit fault => some fault
  | _ => none

end Failure
end FileConfinement
