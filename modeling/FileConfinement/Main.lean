import FileConfinement.Command.Perform

/-!
# The program

The command line on the machine at hand.  The machine is first looked at and
described as a host; the answer is then worked out on the description and shown.
Calls that this program has no means of making, those that fill a ruleset,
restrict the process and execute a program, are described as not implemented.
-/

namespace FileConfinement
namespace Machine

/-- The error of a call that cannot be made. -/
def notImplemented : Errno := ⟨38⟩

/-- The file that tells the kernel release. -/
def releaseFile : String := "/proc/sys/kernel/osrelease"

/-- The file that tells the user of the process. -/
def statusFile : String := "/proc/self/status"

def userFile : String := "/etc/passwd"

def fields (separator : Char → Bool) (text : List Char) : List String :=
  (text.splitBy fun first second => separator first = separator second).filterMap fun word =>
    if word.all separator then none else some (String.ofList word)

/-- The user identity in a status file, on the line that starts with `Uid:`. -/
def statusUid? (text : String) : Option UInt32 :=
  let lines := fields (· = '\n') text.toList
  lines.findSome? fun line =>
    match fields Char.isWhitespace line.toList with
    | "Uid:" :: uid :: _ => uid.toNat?.map UInt32.ofNat
    | _ => none

/-- The entry in a line of the user database. -/
def userEntry? (line : String) : Option (UInt32 × Path) :=
  match line.split (· = ':') |>.toList.map (·.toString) with
  | [_, _, uid, _, _, home, _] => uid.toNat?.map fun uid => (UInt32.ofNat uid, .ofString home)
  | _ => none

/-- The content of a file, if it can be read. -/
def content? (name : String) : IO (Option (List UInt8)) := do
  try
    return some (← IO.FS.readBinFile name).toList
  catch _ =>
    return none

/-- The text of a file; a file that cannot be read has none. -/
def textOf (name : String) : IO String := do
  let bytes := (← content? name).getD []
  return String.ofList (Utf8.display bytes)

/-- Look at a path; one that is no text is taken for missing. -/
def look (path : Path) : IO (Option FileEntry) := do
  match path.text? with
  | none => return none
  | some text =>
      let name := String.ofList text
      if ← ((← IO.currentDir) / name).pathExists then
        return some ⟨path, none, none, none, ← content? name⟩
      else
        return none

/-- The machine without its files. -/
def describe : IO Host := do
  let release ← textOf releaseFile
  let uid := (statusUid? (← textOf statusFile)).getD 0
  let users := fields (· = '\n') (← textOf userFile).toList
  return {
    release := Utf8.encode (Text.trimEnd release.toList)
    releaseError := none
    abi := none
    uid := uid
    homeVariable := (← IO.getEnv "HOME").map .ofString
    userEntries := users.filterMap userEntry?
    userEntryError := none
    createError := some notImplemented
    privilegeError := some notImplemented
    restrictError := some notImplemented
    executeError := some notImplemented
    files := [] }

/-- The machine with the files at some paths. -/
def addFiles (host : Host) (paths : List Path) : IO Host := do
  let entries ← paths.mapM look
  return { host with files := host.files ++ entries.filterMap id }

def environment : IO Command.Environment := do
  let values ← Command.Presentation.variableNames.mapM fun name => do
    return (← IO.getEnv name).map (name, ·)
  return values.filterMap id

/-- The paths that a request may ask about, once its configuration can be
read. -/
def pathsOf (host : Host) (request : Command.Request) : List Path :=
  let settings := match request with
    | .run settings _ _ => settings
    | .baseline home => { Command.Settings.none with home := home }
    | _ => .none
  let context := ((Command.loadContext settings).run host []).value
  match context with
  | .error _ => []
  | .ok context =>
      let baseline := (context.baselineRules.run host []).value
      (baseline.map fun baseline =>
          baseline.home.toList ++ baseline.rules.map Prod.snd).getD [] ++
        context.rules.map Directive.path

/-- The path of the configuration that a request names. -/
def configurationOf : Command.Request → List Path
  | .run settings _ _ => settings.config.toList
  | _ => []

end Machine
end FileConfinement

open FileConfinement in
/-- Carry out a command line on the machine at hand. -/
def main (arguments : List String) : IO UInt32 := do
  match Command.Line.ofWords? (arguments.map Command.Word.ofString) with
  | none =>
      IO.eprint Command.usageText
      return UInt32.ofNat Command.misuseExitCode
  | some line =>
      let host ← Machine.addFiles (← Machine.describe) (Machine.configurationOf line.request)
      let host ← Machine.addFiles host (Machine.pathsOf host line.request)
      let transcript := line.perform (← Machine.environment) host
      IO.print transcript.output
      IO.eprint transcript.errors
      return UInt32.ofNat transcript.exitCode
