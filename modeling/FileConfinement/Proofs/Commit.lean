import FileConfinement.Proofs.Kernel
import FileConfinement.Ruleset

/-!
# Committing a ruleset

Putting the rules in force takes two calls, the second one only if the first one
succeeds.  A failure of either leaves the ruleset open, and a ruleset that is not
open makes no call.
-/

namespace FileConfinement

namespace Host

/-- The error with which a host refuses the restriction, if it does. -/
def commitError? (host : Host) : Option Errno :=
  host.privilegeError.or host.restrictError

/-- The calls that put the rules of a ruleset in force. -/
def commitCalls (host : Host) (ruleset : Nat) : List Call :=
  match host.privilegeError with
  | some errno => [.giveUpPrivileges (.refused errno)]
  | none =>
      [.giveUpPrivileges (.granted ()),
        .restrict ruleset (Kernel.replyUnless host.restrictError)]

theorem mem_commitCalls_iff {host : Host} {ruleset : Nat} {call : Call} :
    call ∈ host.commitCalls ruleset ↔
      call = .giveUpPrivileges (Kernel.replyUnless host.privilegeError) ∨
        host.privilegeError = none ∧
          call = .restrict ruleset (Kernel.replyUnless host.restrictError) := by
  cases privilege : host.privilegeError <;> simp [commitCalls, privilege]

end Host

namespace Ruleset

/-- A ruleset whose rules are in force. -/
def enforced (ruleset : Ruleset) : Ruleset :=
  { ruleset with state := .committed }

theorem run_enforce (descriptor : Nat) (host : Host) (table : DescriptorTable) :
    (enforce descriptor).run host table =
      ⟨match host.commitError? with
        | some errno => .error (.commit (.code errno))
        | none => .ok (),
        table, host.commitCalls descriptor, []⟩ := by
  cases privilege : host.privilegeError with
  | some errno =>
      simp [enforce, Host.commitError?, Host.commitCalls, Action.run_bind, privilege]
  | none =>
      cases restriction : host.restrictError <;>
        simp [enforce, Host.commitError?, Host.commitCalls, Action.run_bind, privilege,
          restriction]

variable {host : Host} {table : DescriptorTable} {ruleset : Ruleset}

theorem run_restrict_unsupported (unsupported : ruleset.isSupported = false) :
    ruleset.restrict.run host table =
      ⟨(.ok .skipped, ruleset), table, [], [.unsupported .ruleset]⟩ := by
  simp [restrict, unsupported]

theorem run_restrict_idle (supported : ruleset.isSupported = true)
    (idle : ruleset.descriptor? = none) :
    ruleset.restrict.run host table = ⟨(.ok .skipped, ruleset), table, [], []⟩ := by
  cases state : ruleset.state with
  | uninitialized => simp [restrict, supported, state]
  | «open» descriptor => simp [descriptor?, state] at idle
  | committed => simp [restrict, supported, state]

theorem run_restrict_refused (supported : ruleset.isSupported = true) {descriptor : Nat}
    (isOpen : ruleset.state = .open descriptor) {errno : Errno}
    (refused : host.commitError? = some errno) :
    ruleset.restrict.run host table =
      ⟨(.error (.commit (.code errno)), ruleset), table, host.commitCalls descriptor, []⟩ := by
  simp [restrict, supported, isOpen, Action.run_bind, run_enforce, refused]

theorem run_restrict_enforced (supported : ruleset.isSupported = true) {descriptor : Nat}
    (isOpen : ruleset.state = .open descriptor) (granted : host.commitError? = none) :
    ruleset.restrict.run host table =
      ⟨(.ok .enforced, ruleset.enforced), table.erase descriptor,
        host.commitCalls descriptor ++ [.close descriptor], [.restricted ruleset.rules]⟩ := by
  simp [restrict, supported, isOpen, Action.run_bind, run_enforce, granted, enforced]

theorem kernel_restrict (host : Host) (table : DescriptorTable) (ruleset : Ruleset) :
    (ruleset.restrict.run host table).value.2.kernel = ruleset.kernel := by
  cases supported : ruleset.isSupported with
  | false => rw [run_restrict_unsupported supported]
  | true =>
      cases state : ruleset.state with
      | uninitialized => rw [run_restrict_idle supported (by simp [descriptor?, state])]
      | committed => rw [run_restrict_idle supported (by simp [descriptor?, state])]
      | «open» descriptor =>
          cases commit : host.commitError? with
          | some errno => rw [run_restrict_refused supported state commit]
          | none =>
              rw [run_restrict_enforced supported state commit]
              rfl

theorem run_discard (host : Host) (table : DescriptorTable) (ruleset : Ruleset) :
    ruleset.discard.run host table =
      match ruleset.descriptor? with
      | some descriptor => ⟨(), table.erase descriptor, [.close descriptor], []⟩
      | none => ⟨(), table, [], []⟩ := by
  cases held : ruleset.descriptor? <;> simp [discard, held]

/-- The answer to the restriction of an open ruleset. -/
def commitAnswer (host : Host) : Except Failure RestrictStatus :=
  match host.commitError? with
  | some errno => .error (.commit (.code errno))
  | none => .ok .enforced

/-- An open ruleset that is put in force and then given up is closed once, by
whichever of the two comes to it first. -/
theorem run_restrict_discard (supported : ruleset.isSupported = true) {descriptor : Nat}
    (isOpen : ruleset.state = .open descriptor) :
    let committed := ruleset.restrict.run host table
    let discarded := committed.value.2.discard.run host committed.table
    committed.value.1 = commitAnswer host ∧ discarded.table = table.erase descriptor ∧
      committed.calls ++ discarded.calls =
        host.commitCalls descriptor ++ [.close descriptor] := by
  cases commit : host.commitError? with
  | some errno =>
      have held : ruleset.descriptor? = some descriptor := by simp [descriptor?, isOpen]
      simp [run_restrict_refused supported isOpen commit, run_discard, commitAnswer, commit, held]
  | none =>
      have released : ruleset.enforced.descriptor? = none := rfl
      simp [run_restrict_enforced supported isOpen commit, run_discard, commitAnswer, commit,
        released]

end Ruleset
end FileConfinement
