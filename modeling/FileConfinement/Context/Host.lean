import FileConfinement.Baseline
import FileConfinement.Context.Document

/-!
# Contexts on a host

What a context leaves open is filled in from the host: the confined user, the
home directory, and a context itself when it lies in a file.
-/

namespace FileConfinement

namespace Host

def readFile (host : Host) (path : Path) : Except IoFault (List UInt8) :=
  if path.hasNul then
    .error .nulInPath
  else
    match host.openError? path with
    | some errno => .error (.code errno)
    | none =>
        match (host.file? path).bind FileEntry.content with
        | some bytes => .ok bytes
        | none => .error (.code .isDirectory)

def readTextFile (host : Host) (path : Path) : Except IoFault String := do
  let bytes ← host.readFile path
  match Utf8.decode? bytes with
  | some text => .ok (String.ofList text)
  | none => .error .notText

/-- The home directory of a user in the user database. -/
def homeOfUser (host : Host) (uid : UInt32) : Except Failure Path :=
  match host.userEntryError with
  | some errno => .error (.query (.userEntry errno))
  | none =>
      match host.userEntries.lookup uid with
      | some home => .ok home
      | none => .error (.configuration (.unknownUser uid))

end Host

namespace Context

/-- Read a context from a text. -/
def ofText (text : String) : Except Failure Context :=
  (ofDocument text).mapError fun error => .configuration (.document error)

/-- Read a context from a file. -/
def load (host : Host) (path : Path) : Except Failure Context :=
  match host.readTextFile path with
  | .error fault => .error (.io fault)
  | .ok text => (ofText text).mapError (Failure.inFile path)

def userId (context : Context) (host : Host) : UInt32 :=
  context.uid.getD host.uid

/-- The home directory of the confined user: the configured one, else the one of
the environment unless that is empty, else the one of the user database. -/
def homeDirectory (context : Context) (host : Host) : Except Failure Path :=
  match context.home with
  | some home => .ok home
  | none =>
      match host.homeVariable.filter fun home => !home.bytes.isEmpty with
      | some home => .ok home
      | none => host.homeOfUser (context.userId host)

/-- The baseline rules that a context asks for.  A home directory that cannot be
found is reported and costs only the rule for it. -/
def baselineRules (context : Context) : Action (Option Baseline) :=
  if context.baseline then do
    let uid ← .ask context.userId
    let home ← .ask context.homeDirectory
    match home with
    | .ok home => return some ⟨some home, uid, context.runtimeDirectory⟩
    | .error failure =>
        .report (.homeUnresolved failure)
        return some ⟨none, uid, context.runtimeDirectory⟩
  else
    return none

end Context
end FileConfinement
