import FileConfinement.Context.Basic
import FileConfinement.Ruleset

/-!
# Baseline rules

The rules that every confined program gets unless they are turned off: the whole
file system is readable, the usual transient places and the user's home are
writable, and the standard program trees are executable.  Applying them attempts
every rule whatever happens to the others.
-/

namespace FileConfinement

/-- The baseline rules for one user. -/
structure Baseline where
  /-- The home directory of the user, if it is known. -/
  home : Option Path
  uid : UInt32
  /-- The directory from which the confined program may re-execute itself. -/
  runtimeDirectory : Path
deriving DecidableEq, Repr

/-- A class of rights beneath a path. -/
abbrev ClassRule := AccessClass × Path

namespace Baseline

def homeMask : AccessMask :=
  AccessClass.read.mask.union AccessClass.write.mask

/-- The path that stands for a home directory that is not known. -/
def unknownHome : Path := .ofString "$HOME"

/-- Places that any session writes to. -/
def writableDirectories : List String := ["/tmp", "/dev", "/run/shm"]

def executableDirectories : List String :=
  ["/opt", "/bin", "/sbin", "/lib", "/lib32", "/libx32", "/lib64", "/usr/bin", "/usr/sbin",
    "/usr/games", "/usr/lib", "/usr/lib32", "/usr/libx32", "/usr/lib64", "/usr/local/bin",
    "/usr/local/sbin", "/usr/local/games", "/usr/local/lib"]

def userRuntimeDirectory (baseline : Baseline) : Path :=
  .ofString s!"/run/user/{baseline.uid.toNat}"

/-- Every rule except the one for the home directory. -/
def rules (baseline : Baseline) : List ClassRule :=
  [(.read, .ofString "/"), (.special, .ofString "/")] ++
    writableDirectories.map (fun directory => (.write, .ofString directory)) ++
    [(.write, baseline.userRuntimeDirectory)] ++
    executableDirectories.map (fun directory => (.execute, .ofString directory)) ++
    [(.execute, baseline.runtimeDirectory)]

/-- The failures of an application so far. -/
structure Tally where
  first : Option Failure
  count : Nat
deriving DecidableEq, Repr

namespace Tally

def none : Tally := ⟨.none, 0⟩

def add (tally : Tally) (failure : Failure) : Tally :=
  ⟨some (tally.first.getD failure), tally.count + 1⟩

end Tally

/-- Count and report the failure of an attempt, if it failed. -/
def record {α : Type} (tally : Tally) : Except Failure α → Action Tally
  | .ok _ => return tally
  | .error failure => do
      .report (.baselineRuleFailed failure)
      return tally.add failure

/-- Attempt the rule for the home directory; not knowing it is a failure. -/
def applyHome (home : Option Path) (ruleset : Ruleset) : Action (Tally × Ruleset) :=
  match home with
  | some home => do
      let (result, ruleset) ← ruleset.allowMask homeMask home
      return (← record .none result, ruleset)
  | none => do
      let failure := Failure.insertion unknownHome .homeUnresolved
      return (← record .none (.error failure : Except Failure RuleStatus), ruleset)

/-- Attempt rules in order, except those for paths that do not exist. -/
def applyRules : List ClassRule → Tally → Ruleset → Action (Tally × Ruleset)
  | [], tally, ruleset => return (tally, ruleset)
  | (accessClass, path) :: rules, tally, ruleset => do
      if ← Action.ask (Host.pathExists · path) then
        let (result, ruleset) ← ruleset.allow accessClass path
        applyRules rules (← record tally result) ruleset
      else
        .report (.baselineRuleSkipped accessClass path)
        applyRules rules tally ruleset

/-- Attempt every baseline rule; the answer is the first failure. -/
def apply (baseline : Baseline) (ruleset : Ruleset) : Action (Except Failure Unit × Ruleset) :=
  if !ruleset.isSupported then do
    .report (.unsupported .baseline)
    return (.ok (), ruleset)
  else do
    let (tally, ruleset) ← applyHome baseline.home ruleset
    let (tally, ruleset) ← applyRules baseline.rules tally ruleset
    .report (.baselineApplied ruleset.rules tally.count)
    match tally.first with
    | some failure => return (.error failure, ruleset)
    | none => return (.ok (), ruleset)

end Baseline

end FileConfinement
