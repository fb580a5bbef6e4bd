import FileConfinement.Proofs.Attempt
import FileConfinement.Proofs.Commit

/-!
# The protocol of a ruleset

The calls that are made for one ruleset follow a protocol: a creation that succeeds
is the last one, a rule is added on a parent that was opened by the call before it,
and the restriction follows the call that gives up new privileges.  A phase says how
far the calls have come, and a ruleset stands in a phase when its own state and the
open descriptors agree with it.
-/

namespace FileConfinement

namespace AccessMask

/-- Every right of a mask is a right of another one. -/
def IsWithin (mask whole : AccessMask) : Prop :=
  mask.bits &&& whole.bits = mask.bits

/-- A mask that a rule may grant: some of the handled rights, and not none. -/
def IsGrantable (mask : AccessMask) : Prop :=
  mask.bits ≠ 0 ∧ mask.IsWithin .handled

instance (mask whole : AccessMask) : Decidable (mask.IsWithin whole) :=
  inferInstanceAs (Decidable (_ = _))

instance (mask : AccessMask) : Decidable mask.IsGrantable :=
  inferInstanceAs (Decidable (_ ∧ _))

end AccessMask

theorem AccessClass.mask_isGrantable (accessClass : AccessClass) :
    accessClass.mask.IsGrantable := by
  cases accessClass <;> decide

namespace Call

/-- The descriptor of the ruleset that a call created. -/
def created? : Call → Option Nat
  | createRuleset _ (.granted descriptor) => some descriptor
  | _ => none

/-- The descriptor of the ruleset that a call put in force. -/
def enforced? : Call → Option Nat
  | restrict descriptor (.granted ()) => some descriptor
  | _ => none

/-- Whether a call added a rule. -/
def addsRule : Call → Bool
  | addRule _ _ _ (.granted ()) => true
  | _ => false

end Call

/-- How far the calls made for a ruleset have come. -/
inductive Phase where
  | fresh
  | open (ruleset : Nat)
  /-- A parent is open and its rule comes next. -/
  | inserting (ruleset parent : Nat)
  /-- The rule was attempted and its parent is closed next. -/
  | leaving (ruleset parent : Nat)
  /-- New privileges are given up and the restriction comes next. -/
  | surrendered (ruleset : Nat)
  /-- The rules are in force and the ruleset is closed next. -/
  | restricted (ruleset : Nat)
  | committed (ruleset : Nat)
  /-- The ruleset was closed without being put in force. -/
  | discarded (ruleset : Nat)

namespace Phase

/-- The descriptors that were created up to a phase. -/
def created : Phase → List Nat
  | fresh => []
  | .open ruleset | inserting ruleset _ | leaving ruleset _ | surrendered ruleset
  | restricted ruleset | committed ruleset | discarded ruleset => [ruleset]

/-- The descriptors whose rules were put in force up to a phase. -/
def enforced : Phase → List Nat
  | restricted ruleset | committed ruleset => [ruleset]
  | _ => []

/-- The calls that may be made in a phase, while some other descriptors are taken,
and the phase that they lead to. -/
inductive Next (taken : List Nat) : Phase → Call → Phase → Prop where
  | creationRefused (errno : Errno) :
      Next taken fresh (.createRuleset .handled (.refused errno)) fresh
  | created {ruleset : Nat} (free : ruleset ∉ taken) :
      Next taken fresh (.createRuleset .handled (.granted ruleset)) (.open ruleset)
  | parentRefused (ruleset : Nat) (path : Path) (errno : Errno) :
      Next taken (.open ruleset) (.openPath path (.refused errno)) (.open ruleset)
  | parentOpened (ruleset : Nat) (path : Path) (parent : Nat) :
      Next taken (.open ruleset) (.openPath path (.granted parent)) (inserting ruleset parent)
  | ruleAnswered (ruleset parent : Nat) {mask : AccessMask} (grantable : mask.IsGrantable)
      (reply : Reply Unit) :
      Next taken (inserting ruleset parent) (.addRule ruleset mask parent reply)
        (leaving ruleset parent)
  | parentClosed {ruleset parent : Nat} (free : parent ∉ ruleset :: taken) :
      Next taken (leaving ruleset parent) (.close parent) (.open ruleset)
  | privilegesKept (ruleset : Nat) (errno : Errno) :
      Next taken (.open ruleset) (.giveUpPrivileges (.refused errno)) (.open ruleset)
  | privilegesGivenUp (ruleset : Nat) :
      Next taken (.open ruleset) (.giveUpPrivileges (.granted ())) (surrendered ruleset)
  | restrictionRefused (ruleset : Nat) (errno : Errno) :
      Next taken (surrendered ruleset) (.restrict ruleset (.refused errno)) (.open ruleset)
  | restrictionGranted {ruleset : Nat} (free : ruleset ∉ taken) :
      Next taken (surrendered ruleset) (.restrict ruleset (.granted ())) (restricted ruleset)
  | released {ruleset : Nat} (free : ruleset ∉ taken) :
      Next taken (restricted ruleset) (.close ruleset) (committed ruleset)
  | discarded {ruleset : Nat} (free : ruleset ∉ taken) :
      Next taken (.open ruleset) (.close ruleset) (discarded ruleset)

/-- The calls that lead from one phase to another. -/
inductive Leads (taken : List Nat) : Phase → List Call → Phase → Prop where
  | rest (phase : Phase) : Leads taken phase [] phase
  | next {first second third : Phase} {call : Call} {calls : List Call} :
      Next taken first call second → Leads taken second calls third →
        Leads taken first (call :: calls) third

variable {taken : List Nat} {phase next last : Phase} {call : Call} {calls later : List Call}

theorem Next.leads (step : Next taken phase call next) : Leads taken phase [call] next :=
  .next step (.rest next)

theorem Leads.append (first : Leads taken phase calls next) (second : Leads taken next later last) :
    Leads taken phase (calls ++ later) last := by
  induction first with
  | rest => exact second
  | next step _ ih => exact .next step (ih second)

/-- Calls that lead somewhere lead through a phase at every point between them. -/
theorem Leads.split (leads : Leads taken phase (calls ++ later) last) :
    ∃ next, Leads taken phase calls next ∧ Leads taken next later last := by
  induction calls generalizing phase with
  | nil => exact ⟨phase, .rest phase, leads⟩
  | cons call calls ih =>
      cases leads with
      | next step leads =>
          obtain ⟨middle, before, after⟩ := ih leads
          exact ⟨middle, .next step before, after⟩

theorem Next.created_eq (step : Next taken phase call next) :
    next.created = phase.created ++ call.created?.toList := by
  cases step <;> rfl

theorem Next.enforced_eq (step : Next taken phase call next) :
    next.enforced = phase.enforced ++ call.enforced?.toList := by
  cases step <;> rfl

/-- A phase keeps a list of what a kind of call answers when every call adds its
answer to the list. -/
theorem Leads.collects {answers : Phase → List Nat} {answer? : Call → Option Nat}
    (collects : ∀ {phase call next}, Next taken phase call next →
      answers next = answers phase ++ (answer? call).toList)
    (leads : Leads taken phase calls next) :
    answers next = answers phase ++ calls.filterMap answer? := by
  induction leads with
  | rest => simp
  | next step _ ih =>
      rw [ih, collects step, List.append_assoc, List.filterMap_cons]
      cases answer? _ <;> rfl

theorem Leads.created_eq (leads : Leads taken phase calls next) :
    next.created = phase.created ++ calls.filterMap Call.created? :=
  leads.collects Next.created_eq

theorem Leads.enforced_eq (leads : Leads taken phase calls next) :
    next.enforced = phase.enforced ++ calls.filterMap Call.enforced? :=
  leads.collects Next.enforced_eq

/-- Nothing is created after a creation that succeeded. -/
theorem Leads.no_creation (leads : Leads taken phase calls next) (created : phase.created ≠ [])
    (handled : AccessMask) (reply : Reply Nat) : .createRuleset handled reply ∉ calls := by
  induction leads with
  | rest => exact List.not_mem_nil
  | next step _ ih =>
      have still := step.created_eq
      rw [List.mem_cons, not_or]
      refine ⟨?_, ih ?_⟩
      · rintro rfl
        cases step <;> exact created rfl
      · rw [still]
        exact List.append_ne_nil_of_left_ne_nil created _

/-- A call that may be made in no phase is not among the calls. -/
theorem Leads.notMem (leads : Leads taken phase calls next)
    (never : ∀ first second, ¬ Next taken first call second) : call ∉ calls := by
  induction leads with
  | rest => exact List.not_mem_nil
  | next step _ ih =>
      rw [List.mem_cons, not_or]
      refine ⟨?_, ih⟩
      rintro rfl
      exact never _ _ step

/-- No call closes a descriptor that is taken. -/
theorem Leads.close_notMem (leads : Leads taken phase calls next) {descriptor : Nat}
    (isTaken : descriptor ∈ taken) : .close descriptor ∉ calls := by
  refine leads.notMem ?_
  intro first second step
  cases step with
  | parentClosed free => exact free (List.mem_cons_of_mem _ isTaken)
  | released free => exact free isTaken
  | discarded free => exact free isTaken

/-- No call puts a taken descriptor in force. -/
theorem Leads.restrict_notMem (leads : Leads taken phase calls next) {descriptor : Nat}
    (isTaken : descriptor ∈ taken) : .restrict descriptor (.granted ()) ∉ calls := by
  refine leads.notMem ?_
  intro first second step
  cases step with
  | restrictionGranted free => exact free isTaken

end Phase
end FileConfinement
