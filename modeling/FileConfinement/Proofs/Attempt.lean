import FileConfinement.Proofs.Kernel
import FileConfinement.Ruleset

/-!
# Attempts to add a rule

An attempt asks for some rights beneath a path.  What becomes of it depends on the
host, on the state of the ruleset, and on nothing else: on an open ruleset it makes
a block of calls that leaves the open descriptors as they were, and the ruleset is
opened by the first attempt that can create it.
-/

namespace FileConfinement

/-- A request for a rule: some rights beneath a path. -/
structure Attempt where
  mask : AccessMask
  path : Path
deriving DecidableEq, Repr

namespace Attempt

/-- Why a host refuses the rule of an attempt, if it does. -/
def fault? (attempt : Attempt) (host : Host) : Option IoFault :=
  if attempt.path.hasNul then
    some .nulInPath
  else
    ((host.openError? attempt.path).or (host.ruleError? attempt.path)).map .code

/-- The calls of an attempt at a ruleset that is open on a descriptor.  The path is
open on another one while its rule is added, and a path that holds a zero byte
reaches no call. -/
def block (attempt : Attempt) (host : Host) (ruleset parent : Nat) : List Call :=
  if attempt.path.hasNul then
    []
  else
    match host.openError? attempt.path with
    | some errno => [.openPath attempt.path (.refused errno)]
    | none =>
        [.openPath attempt.path (.granted parent),
          .addRule ruleset attempt.mask parent
            (Kernel.replyUnless (host.ruleError? attempt.path)),
          .close parent]

/-- The answer to an attempt at an open ruleset. -/
def answer (attempt : Attempt) (host : Host) : Except Failure RuleStatus :=
  match attempt.fault? host with
  | some fault => .error (.insertion attempt.path fault)
  | none => .ok .added

/-- How many rules an attempt at an open ruleset adds. -/
def added (attempt : Attempt) (host : Host) : Nat :=
  if attempt.fault? host = none then 1 else 0

/-- What an attempt at an open ruleset reports. -/
def events (attempt : Attempt) (host : Host) : List Event :=
  if attempt.fault? host = none then [.ruleAdded attempt.mask attempt.path] else []

variable {attempt : Attempt} {host : Host} {ruleset parent : Nat}

theorem block_of_refused (nonzero : attempt.path.hasNul = false) {errno : Errno}
    (refused : host.openError? attempt.path = some errno) :
    attempt.block host ruleset parent = [.openPath attempt.path (.refused errno)] := by
  simp [block, nonzero, refused]

theorem block_of_granted (nonzero : attempt.path.hasNul = false)
    (granted : host.openError? attempt.path = none) :
    attempt.block host ruleset parent =
      [.openPath attempt.path (.granted parent),
        .addRule ruleset attempt.mask parent (Kernel.replyUnless (host.ruleError? attempt.path)),
        .close parent] := by
  simp [block, nonzero, granted]

/-- An attempt opens no path but its own. -/
theorem path_of_mem_block {path : Path} {reply : Reply Nat}
    (member : .openPath path reply ∈ attempt.block host ruleset parent) :
    attempt.path = path := by
  cases zero : attempt.path.hasNul with
  | true => simp [block, zero] at member
  | false =>
      cases opening : host.openError? attempt.path with
      | some errno =>
          rw [block_of_refused zero opening, List.mem_singleton, Call.openPath.injEq] at member
          exact member.1.symm
      | none =>
          simp only [block_of_granted zero opening, List.mem_cons, Call.openPath.injEq,
            reduceCtorEq, List.not_mem_nil, or_self, or_false] at member
          exact member.1.symm

end Attempt

namespace Ruleset

/-- A ruleset with some more rules. -/
def grown (ruleset : Ruleset) (added : Nat) : Ruleset :=
  { ruleset with rules := ruleset.rules + added }

@[simp] theorem grown_zero (ruleset : Ruleset) : ruleset.grown 0 = ruleset := rfl

@[simp] theorem grown_grown (ruleset : Ruleset) (first second : Nat) :
    (ruleset.grown first).grown second = ruleset.grown (first + second) := by
  simp [grown, Nat.add_assoc]

@[simp] theorem isSupported_grown (ruleset : Ruleset) (added : Nat) :
    (ruleset.grown added).isSupported = ruleset.isSupported := rfl

@[simp] theorem state_grown (ruleset : Ruleset) (added : Nat) :
    (ruleset.grown added).state = ruleset.state := rfl

/-- A ruleset that was just opened. -/
def opened (ruleset : Ruleset) (descriptor : Nat) : Ruleset :=
  { ruleset with state := .open descriptor }

variable (host : Host) (table : DescriptorTable)

theorem run_insertRule (attempt : Attempt) (descriptor : Nat) :
    (insertRule descriptor attempt.mask attempt.path).run host table =
      ⟨(attempt.answer host).map fun _ => (), table,
        attempt.block host descriptor table.lowestFree, []⟩ := by
  by_cases zero : attempt.path.hasNul = true
  · simp [insertRule, Attempt.answer, Attempt.fault?, Attempt.block, zero, Except.map]
  cases opening : host.openError? attempt.path with
  | some errno =>
      simp [insertRule, Attempt.answer, Attempt.fault?, Attempt.block, zero, opening,
        Action.run_bind, Kernel.run_openPath_refused table opening, Except.map]
  | none =>
      cases adding : host.ruleError? attempt.path <;>
        simp [insertRule, Attempt.answer, Attempt.fault?, Attempt.block, zero, opening, adding,
          Action.run_bind, Kernel.run_openPath_granted table opening, Except.map]

theorem run_allowMask_unsupported {ruleset : Ruleset}
    (unsupported : ruleset.isSupported = false) (mask : AccessMask) (path : Path) :
    (ruleset.allowMask mask path).run host table =
      ⟨(.ok .unsupported, ruleset), table, [], [.unsupported .ruleset]⟩ := by
  simp [allowMask, unsupported]

section Supported

variable {host table} {ruleset : Ruleset} (supported : ruleset.isSupported = true)
include supported

theorem run_allowMask_committed (attempt : Attempt) (committed : ruleset.state = .committed) :
    (ruleset.allowMask attempt.mask attempt.path).run host table =
      ⟨(.error .alreadyEnforced, ruleset), table, [], []⟩ := by
  simp [allowMask, supported, ensureOpen, committed]

theorem run_allowMask_open (attempt : Attempt) {descriptor : Nat}
    (isOpen : ruleset.state = .open descriptor) :
    (ruleset.allowMask attempt.mask attempt.path).run host table =
      ⟨(attempt.answer host, ruleset.grown (attempt.added host)), table,
        attempt.block host descriptor table.lowestFree, attempt.events host⟩ := by
  cases fault : attempt.fault? host with
  | some cause =>
      simp [allowMask, supported, ensureOpen, isOpen, Action.run_bind, run_insertRule,
        Attempt.answer, Attempt.added, Attempt.events, fault, Except.map]
  | none =>
      simp [allowMask, supported, ensureOpen, isOpen, Action.run_bind, run_insertRule,
        Attempt.answer, Attempt.added, Attempt.events, fault, Except.map, grown]

theorem run_allowMask_refused (attempt : Attempt) (fresh : ruleset.state = .uninitialized)
    {errno : Errno} (refused : host.createError = some errno) :
    (ruleset.allowMask attempt.mask attempt.path).run host table =
      ⟨(.error (.ruleset (.creation errno)), ruleset), table,
        [.createRuleset .handled (.refused errno)], []⟩ := by
  simp [allowMask, supported, ensureOpen, fresh, Action.run_bind,
    Kernel.run_createRuleset_refused table refused]

theorem run_allowMask_created (attempt : Attempt) (fresh : ruleset.state = .uninitialized)
    (granted : host.createError = none) :
    (ruleset.allowMask attempt.mask attempt.path).run host table =
      let descriptor := table.lowestFree
      let after := table.insert descriptor .ruleset
      ⟨(attempt.answer host, (ruleset.opened descriptor).grown (attempt.added host)), after,
        .createRuleset .handled (.granted descriptor) ::
          attempt.block host descriptor after.lowestFree,
        .rulesetCreated descriptor :: attempt.events host⟩ := by
  cases fault : attempt.fault? host <;>
    simp [allowMask, supported, ensureOpen, fresh, Action.run_bind,
      Kernel.run_createRuleset_granted table granted, run_insertRule,
      Attempt.answer, Attempt.added, Attempt.events, fault, Except.map, grown, opened]

end Supported

/-- The kernel for which a ruleset was made stays the same. -/
theorem kernel_allowMask (attempt : Attempt) (ruleset : Ruleset) :
    ((ruleset.allowMask attempt.mask attempt.path).run host table).value.2.kernel =
      ruleset.kernel := by
  cases supported : ruleset.isSupported with
  | false => rw [run_allowMask_unsupported host table supported]
  | true =>
      cases state : ruleset.state with
      | committed => rw [run_allowMask_committed supported attempt state]
      | «open» descriptor =>
          rw [run_allowMask_open supported attempt state]
          rfl
      | uninitialized =>
          cases creation : host.createError with
          | some errno => rw [run_allowMask_refused supported attempt state creation]
          | none =>
              rw [run_allowMask_created supported attempt state creation]
              rfl

theorem isSupported_allowMask (attempt : Attempt) (ruleset : Ruleset) :
    ((ruleset.allowMask attempt.mask attempt.path).run host table).value.2.isSupported =
      ruleset.isSupported :=
  congrArg KernelVersion.isSupported (kernel_allowMask host table attempt ruleset)

end Ruleset
end FileConfinement
