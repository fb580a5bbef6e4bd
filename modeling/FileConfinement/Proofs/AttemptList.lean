import FileConfinement.Proofs.Attempt

/-!
# Attempts in order

Attempts are made one after the other, whatever becomes of the earlier ones.  On an
open ruleset their blocks of calls follow each other; a ruleset that cannot be
created is asked for anew by every attempt.
-/

namespace FileConfinement

namespace Ruleset

/-- Make attempts in order; the answers are in the same order. -/
def allowEach : List Attempt → Ruleset →
    Action (List (Except Failure RuleStatus) × Ruleset)
  | [], ruleset => return ([], ruleset)
  | attempt :: attempts, ruleset => do
      let (answer, ruleset) ← ruleset.allowMask attempt.mask attempt.path
      let (answers, ruleset) ← allowEach attempts ruleset
      return (answer :: answers, ruleset)

variable {host : Host} {table : DescriptorTable} {ruleset : Ruleset}

@[simp] theorem run_allowEach_nil (host : Host) (table : DescriptorTable) (ruleset : Ruleset) :
    (allowEach [] ruleset).run host table = ⟨([], ruleset), table, [], []⟩ := rfl

theorem run_allowEach_cons (attempt : Attempt) (attempts : List Attempt) (host : Host)
    (table : DescriptorTable) (ruleset : Ruleset) :
    (allowEach (attempt :: attempts) ruleset).run host table =
      let first := (ruleset.allowMask attempt.mask attempt.path).run host table
      let later := (allowEach attempts first.value.2).run host first.table
      ⟨(first.value.1 :: later.value.1, later.value.2), later.table,
        first.calls ++ later.calls, first.events ++ later.events⟩ := by
  simp [allowEach, Action.run_bind]

theorem kernel_allowEach (attempts : List Attempt) (host : Host) (table : DescriptorTable)
    (ruleset : Ruleset) :
    ((allowEach attempts ruleset).run host table).value.2.kernel = ruleset.kernel := by
  induction attempts generalizing table ruleset with
  | nil => rfl
  | cons attempt attempts ih =>
      rw [run_allowEach_cons]
      exact (ih _ _).trans (kernel_allowMask host table attempt ruleset)

/-- How many rules some attempts at an open ruleset add. -/
def addedBy (attempts : List Attempt) (host : Host) : Nat :=
  attempts.countP fun attempt => attempt.fault? host = none

theorem addedBy_cons (attempt : Attempt) (attempts : List Attempt) (host : Host) :
    addedBy (attempt :: attempts) host = attempt.added host + addedBy attempts host := by
  simp only [addedBy, Attempt.added, List.countP_cons, decide_eq_true_eq]
  omega

theorem run_allowEach_open (attempts : List Attempt) (supported : ruleset.isSupported = true)
    {descriptor : Nat} (isOpen : ruleset.state = .open descriptor) :
    (allowEach attempts ruleset).run host table =
      ⟨(attempts.map (·.answer host), ruleset.grown (addedBy attempts host)), table,
        attempts.flatMap (·.block host descriptor table.lowestFree),
        attempts.flatMap (·.events host)⟩ := by
  induction attempts generalizing ruleset with
  | nil => rfl
  | cons attempt attempts ih =>
      have later := @ih (ruleset.grown (attempt.added host)) (by simpa using supported)
        (by simpa using isOpen)
      simp only [run_allowEach_cons, run_allowMask_open supported attempt isOpen, later,
        grown_grown, addedBy_cons, List.map_cons, List.flatMap_cons]

theorem run_allowEach_refused (attempts : List Attempt) (supported : ruleset.isSupported = true)
    (fresh : ruleset.state = .uninitialized) {errno : Errno}
    (refused : host.createError = some errno) :
    (allowEach attempts ruleset).run host table =
      ⟨(attempts.map fun _ => .error (.ruleset (.creation errno)), ruleset), table,
        attempts.map fun _ => .createRuleset .handled (.refused errno), []⟩ := by
  induction attempts with
  | nil => rfl
  | cons attempt attempts ih =>
      simp only [run_allowEach_cons, run_allowMask_refused supported attempt fresh refused, ih,
        List.map_cons, List.cons_append, List.nil_append]

theorem run_allowEach_committed (attempts : List Attempt)
    (supported : ruleset.isSupported = true) (committed : ruleset.state = .committed) :
    (allowEach attempts ruleset).run host table =
      ⟨(attempts.map fun _ => .error .alreadyEnforced, ruleset), table, [], []⟩ := by
  induction attempts with
  | nil => rfl
  | cons attempt attempts ih =>
      simp only [run_allowEach_cons, run_allowMask_committed supported attempt committed, ih,
        List.map_cons, List.nil_append]

/-- The first attempt opens the ruleset and all attempts are made at the open one. -/
theorem run_allowEach_created {attempts : List Attempt} (some' : attempts ≠ [])
    (supported : ruleset.isSupported = true) (fresh : ruleset.state = .uninitialized)
    (granted : host.createError = none) :
    (allowEach attempts ruleset).run host table =
      let descriptor := table.lowestFree
      let after := table.insert descriptor .ruleset
      ⟨(attempts.map (·.answer host),
          (ruleset.opened descriptor).grown (addedBy attempts host)), after,
        .createRuleset .handled (.granted descriptor) ::
          attempts.flatMap (·.block host descriptor after.lowestFree),
        .rulesetCreated descriptor :: attempts.flatMap (·.events host)⟩ := by
  cases attempts with
  | nil => exact absurd rfl some'
  | cons attempt attempts =>
      have later := @run_allowEach_open host (table.insert table.lowestFree .ruleset)
        ((ruleset.opened table.lowestFree).grown (attempt.added host)) attempts supported
        table.lowestFree rfl
      simp only [run_allowEach_cons, run_allowMask_created supported attempt fresh granted,
        later, grown_grown, addedBy_cons, List.map_cons, List.flatMap_cons,
        List.cons_append]

end Ruleset
end FileConfinement
