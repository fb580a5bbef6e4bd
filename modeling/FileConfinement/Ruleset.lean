import FileConfinement.Action
import FileConfinement.Support

/-!
# Rulesets

A ruleset collects rules and finally binds them to the process.  The kernel's
side of it is created with the first rule, keeps one descriptor, and is closed
once the restriction is in force.  Committing is irreversible.
-/

namespace FileConfinement

/-- How far a ruleset has come. -/
inductive RulesetState where
  /-- The kernel has no ruleset yet. -/
  | uninitialized
  /-- The kernel's ruleset is open on a descriptor and takes rules. -/
  | open (descriptor : Nat)
  /-- The rules are in force. -/
  | committed
deriving DecidableEq, Repr

/-- The rules of a process on their way to the kernel. -/
structure Ruleset where
  kernel : KernelVersion
  state : RulesetState
  /-- How many rules the kernel has accepted. -/
  rules : Nat
deriving DecidableEq, Repr

/-- The outcome of asking for a rule. -/
inductive RuleStatus where
  | added
  /-- The kernel is too old and nothing was recorded. -/
  | unsupported
deriving DecidableEq, Repr

/-- The outcome of asking for the restriction. -/
inductive RestrictStatus where
  /-- The process is confined from now on. -/
  | enforced
  /-- There was nothing to enforce. -/
  | skipped
deriving DecidableEq, Repr

namespace Ruleset

def forKernel (kernel : KernelVersion) : Ruleset := ⟨kernel, .uninitialized, 0⟩

/-- An empty ruleset for the kernel of the host. -/
def start : Action (Except Failure Ruleset) :=
  .ask fun host => host.kernelVersion.map forKernel

def isSupported (ruleset : Ruleset) : Bool := ruleset.kernel.isSupported

def descriptor? (ruleset : Ruleset) : Option Nat :=
  match ruleset.state with
  | .open descriptor => some descriptor
  | _ => none

def isOpen (ruleset : Ruleset) : Bool := ruleset.descriptor?.isSome

def isCommitted (ruleset : Ruleset) : Bool := ruleset.state = .committed

/-- Make sure that the kernel has the ruleset open. -/
def ensureOpen (ruleset : Ruleset) : Action (Except Failure Nat × Ruleset) :=
  match ruleset.state with
  | .open descriptor => return (.ok descriptor, ruleset)
  | .committed => return (.error .alreadyEnforced, ruleset)
  | .uninitialized => do
      match ← Kernel.createRuleset .handled with
      | .refused errno => return (.error (.ruleset (.creation errno)), ruleset)
      | .granted descriptor =>
          .report (.rulesetCreated descriptor)
          return (.ok descriptor, { ruleset with state := .open descriptor })

/-- Add a rule to an open ruleset.  The path is opened only while the rule is
being added. -/
def insertRule (descriptor : Nat) (mask : AccessMask) (path : Path) :
    Action (Except Failure Unit) :=
  if path.hasNul then
    return .error (.insertion path .nulInPath)
  else do
    match ← Kernel.openPath path with
    | .refused errno => return .error (.insertion path (.code errno))
    | .granted parent =>
        let reply ← Kernel.addRule descriptor mask parent
        Kernel.close parent
        match reply with
        | .refused errno => return .error (.insertion path (.code errno))
        | .granted () => return .ok ()

/-- Ask for a rule that grants some rights beneath a path. -/
def allowMask (mask : AccessMask) (path : Path) (ruleset : Ruleset) :
    Action (Except Failure RuleStatus × Ruleset) :=
  if !ruleset.isSupported then do
    .report (.unsupported .ruleset)
    return (.ok .unsupported, ruleset)
  else do
    match ← ruleset.ensureOpen with
    | (.error failure, ruleset) => return (.error failure, ruleset)
    | (.ok descriptor, ruleset) =>
        match ← insertRule descriptor mask path with
        | .error failure => return (.error failure, ruleset)
        | .ok () =>
            .report (.ruleAdded mask path)
            return (.ok .added, { ruleset with rules := ruleset.rules + 1 })

/-- Ask for a rule that grants the rights of a class beneath a path. -/
def allow (accessClass : AccessClass) (path : Path) (ruleset : Ruleset) :
    Action (Except Failure RuleStatus × Ruleset) :=
  ruleset.allowMask accessClass.mask path

/-- Put the rules of an open ruleset in force, after giving up new
privileges. -/
def enforce (descriptor : Nat) : Action (Except Failure Unit) := do
  match ← Kernel.giveUpPrivileges with
  | .refused errno => return .error (.commit (.code errno))
  | .granted () =>
      match ← Kernel.restrict descriptor with
      | .refused errno => return .error (.commit (.code errno))
      | .granted () => return .ok ()

/-- Put the rules in force for the process and all its future children.  After a
failure the ruleset is still open. -/
def restrict (ruleset : Ruleset) : Action (Except Failure RestrictStatus × Ruleset) :=
  if !ruleset.isSupported then do
    .report (.unsupported .ruleset)
    return (.ok .skipped, ruleset)
  else
    match ruleset.state with
    | .uninitialized | .committed => return (.ok .skipped, ruleset)
    | .open descriptor => do
        match ← enforce descriptor with
        | .error failure => return (.error failure, ruleset)
        | .ok () =>
            Kernel.close descriptor
            .report (.restricted ruleset.rules)
            return (.ok .enforced, { ruleset with state := .committed })

/-- Give up a ruleset; its descriptor is closed if it is open. -/
def discard (ruleset : Ruleset) : Action Unit :=
  match ruleset.descriptor? with
  | some descriptor => Kernel.close descriptor
  | none => return ()

end Ruleset
end FileConfinement
