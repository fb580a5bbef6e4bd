import FileConfinement.Proofs.AttemptList
import FileConfinement.Proofs.OpenDescriptors

/-!
# Grants behind a trace

A right is granted beneath a path by a rule that the kernel accepts while the parent of
the rule is open on that path.  Attempts at a ruleset do not get in each other's way: the
rules that the kernel accepts are those of the attempts that the host accepts, in their
order, and which descriptors are used for them does not matter.
-/

namespace FileConfinement

/-- The rule that a call adds, with the path that its parent is open on. -/
def Call.granted? (table : DescriptorTable) : Call → Option Attempt
  | addRule _ mask parent (.granted _) => (table.path? parent).map (⟨mask, ·⟩)
  | _ => none

namespace DescriptorTable

/-- Some rule that the kernel accepts carries a right beneath a path. -/
def Granted (table : DescriptorTable) (calls : List Call) (path : Path) (right : Right) : Prop :=
  ∃ before ruleset mask parent after,
    calls = before ++ .addRule ruleset mask parent (.granted ()) :: after ∧
      (table.replay before).path? parent = some path ∧ mask.carries right = true

/-- The rules that the kernel accepts, in order. -/
def grants (table : DescriptorTable) : List Call → List Attempt
  | [] => []
  | call :: calls => (call.granted? table).toList ++ grants (call.tableAfter table) calls

variable {table : DescriptorTable}

theorem grants_append (first second : List Call) :
    table.grants (first ++ second) =
      table.grants first ++ (table.replay first).grants second := by
  induction first generalizing table with
  | nil => rfl
  | cons call first ih => simp [grants, ih]

theorem mem_grants_iff {calls : List Call} {attempt : Attempt} :
    attempt ∈ table.grants calls ↔
      ∃ before call after, calls = before ++ call :: after ∧
        call.granted? (table.replay before) = some attempt := by
  constructor
  · intro member
    induction calls generalizing table with
    | nil => exact absurd member List.not_mem_nil
    | cons call calls ih =>
        -- The rule is added by the first call or behind it.
        rcases List.mem_append.mp member with here | later
        · exact ⟨[], call, calls, rfl, Option.mem_toList.mp here⟩
        · obtain ⟨before, other, after, split, added⟩ := ih later
          exact ⟨call :: before, other, after, congrArg (call :: ·) split, added⟩
  · rintro ⟨before, call, after, rfl, added⟩
    rw [grants_append]
    exact List.mem_append_right _ (List.mem_append_left _ (Option.mem_toList.mpr added))

theorem granted_iff_mem_grants {calls : List Call} {path : Path} {right : Right} :
    table.Granted calls path right ↔
      ∃ mask : AccessMask, ⟨mask, path⟩ ∈ table.grants calls ∧ mask.carries right = true := by
  constructor
  · rintro ⟨before, ruleset, mask, parent, after, split, opened, carries⟩
    refine ⟨mask, mem_grants_iff.mpr ⟨before, _, after, split, ?_⟩, carries⟩
    simp [Call.granted?, opened]
  · rintro ⟨mask, member, carries⟩
    obtain ⟨before, call, after, split, added⟩ := mem_grants_iff.mp member
    cases call with
    | addRule ruleset mask' parent reply =>
        cases reply with
        | granted value =>
            obtain ⟨opened, rfl⟩ : (table.replay before).path? parent = some path ∧
                mask' = mask := by
              simpa [Call.granted?] using added
            exact ⟨before, ruleset, mask', parent, after, split, opened, carries⟩
        | refused errno => exact absurd added (by simp [Call.granted?])
    | _ => exact absurd added (by simp [Call.granted?])

end DescriptorTable

/-- A host on which a path can be opened and a rule can be added for it.  No host opens a
path that holds a zero byte. -/
structure Host.Accepts (host : Host) (path : Path) : Prop where
  nonzero : path.hasNul = false
  opened : host.openError? path = none
  added : host.ruleError? path = none

namespace Attempt

variable (host : Host) (table : DescriptorTable)

theorem fault?_eq_none_iff {host : Host} {attempt : Attempt} :
    attempt.fault? host = none ↔ host.Accepts attempt.path := by
  constructor
  · intro faultless
    cases zero : attempt.path.hasNul with
    | true => exact absurd faultless (by simp [fault?, zero])
    | false =>
        obtain ⟨opened, added⟩ : host.openError? attempt.path = none ∧
            host.ruleError? attempt.path = none := by
          simpa [fault?, zero] using faultless
        exact ⟨zero, opened, added⟩
  · rintro ⟨nonzero, opened, added⟩
    simp [fault?, nonzero, opened, added]

theorem replay_block (attempt : Attempt) (ruleset : Nat) :
    table.replay (attempt.block host ruleset table.lowestFree) = table := by
  by_cases zero : attempt.path.hasNul = true
  · simp [block, zero]
  cases opening : host.openError? attempt.path <;>
    simp [block, zero, opening, Call.tableAfter]

theorem grants_block (attempt : Attempt) (ruleset : Nat) :
    table.grants (attempt.block host ruleset table.lowestFree) =
      if attempt.fault? host = none then [attempt] else [] := by
  by_cases zero : attempt.path.hasNul = true
  · simp [block, fault?, zero, DescriptorTable.grants]
  cases opening : host.openError? attempt.path with
  | some errno =>
      simp [block, fault?, zero, opening, DescriptorTable.grants, Call.granted?]
  | none =>
      cases adding : host.ruleError? attempt.path <;>
        simp [block, fault?, zero, opening, adding, DescriptorTable.grants, Call.granted?,
          Call.tableAfter]

theorem grants_blocks (attempts : List Attempt) (ruleset : Nat) :
    table.grants (attempts.flatMap (·.block host ruleset table.lowestFree)) =
      attempts.filter fun attempt => attempt.fault? host = none := by
  induction attempts with
  | nil => rfl
  | cons attempt attempts ih =>
      rw [List.flatMap_cons, DescriptorTable.grants_append, grants_block, replay_block, ih]
      by_cases accepted : attempt.fault? host = none <;> simp [accepted]

end Attempt

/-- Attempts at a ruleset that can be created grant what the host accepts of them. -/
theorem Ruleset.grants_allowEach {host : Host} {ruleset : Ruleset} (attempts : List Attempt)
    (supported : ruleset.isSupported = true) (fresh : ruleset.state = .uninitialized)
    (granted : host.createError = none) (table : DescriptorTable) :
    table.grants ((allowEach attempts ruleset).run host table).calls =
      attempts.filter fun attempt => attempt.fault? host = none := by
  cases some' : attempts with
  | nil => rfl
  | cons attempt later =>
      rw [← some', run_allowEach_created (by simp [some']) supported fresh granted]
      exact Attempt.grants_blocks host (table.insert table.lowestFree .ruleset) attempts _

end FileConfinement
