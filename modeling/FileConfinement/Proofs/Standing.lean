import FileConfinement.Proofs.ContextAttempts
import FileConfinement.Proofs.Protocol

/-!
# Operations follow the protocol

A ruleset stands in a phase over the descriptors that are open beside it when its
state is the one of the phase and its own descriptor is the only other one that is
open.  Every operation on a ruleset that stands in a phase makes calls that lead to
another one in which the ruleset stands afterwards, and the ruleset counts the rules
that were added.
-/

namespace FileConfinement

/-- A ruleset that stands in a phase over the descriptors that are open beside
it. -/
inductive Ruleset.Stands (base : DescriptorTable) : Ruleset → Phase → DescriptorTable → Prop where
  | fresh {ruleset : Ruleset} (state : ruleset.state = .uninitialized) :
      Stands base ruleset .fresh base
  | open {ruleset : Ruleset} {descriptor : Nat} (state : ruleset.state = .open descriptor)
      (free : descriptor ∉ base.descriptors) :
      Stands base ruleset (.open descriptor) (base.insert descriptor .ruleset)
  | committed {ruleset : Ruleset} (descriptor : Nat) (state : ruleset.state = .committed) :
      Stands base ruleset (.committed descriptor) base

/-- What a ruleset in a phase leaves behind when its operation follows the
protocol. -/
def Trail.Follows (base : DescriptorTable) (ruleset : Ruleset) (phase : Phase) (trail : Trail) :
    Prop :=
  ∃ next, trail.ruleset.Stands base next trail.table ∧
    phase.Leads base.descriptors trail.calls next ∧
    trail.ruleset.rules = ruleset.rules + trail.calls.countP Call.addsRule

variable {base table : DescriptorTable} {ruleset : Ruleset} {phase : Phase}

theorem Trail.follows_rest (standing : ruleset.Stands base phase table) :
    (⟨ruleset, table, []⟩ : Trail).Follows base ruleset phase :=
  ⟨phase, standing, .rest phase, rfl⟩

/-- Two operations in order follow the protocol when each of them does. -/
theorem Trail.Follows.behind {first second : Trail} (follows : first.Follows base ruleset phase)
    (later : ∀ next, first.ruleset.Stands base next first.table →
      second.Follows base first.ruleset next) :
    (second.behind first.calls).Follows base ruleset phase := by
  obtain ⟨middle, standing, leads, counted⟩ := follows
  obtain ⟨last, standing', leads', counted'⟩ := later middle standing
  refine ⟨last, standing', leads.append leads', ?_⟩
  simp only [Trail.behind, List.countP_append, counted', counted]
  omega

namespace Attempt

variable {attempt : Attempt} {host : Host} {descriptor parent : Nat}

theorem leads_block {taken : List Nat} (grantable : attempt.mask.IsGrantable)
    (free : parent ∉ descriptor :: taken) :
    (Phase.open descriptor).Leads taken (attempt.block host descriptor parent)
      (.open descriptor) := by
  rw [block]
  split
  · exact .rest _
  cases host.openError? attempt.path with
  | some errno => exact (Phase.Next.parentRefused descriptor attempt.path errno).leads
  | none =>
      refine .next (.parentOpened descriptor attempt.path parent) ?_
      refine .next (.ruleAnswered descriptor parent grantable _) ?_
      exact (Phase.Next.parentClosed free).leads

theorem countP_block :
    (attempt.block host descriptor parent).countP Call.addsRule = attempt.added host := by
  by_cases zero : attempt.path.hasNul = true
  · simp [block, added, fault?, zero]
  cases opening : host.openError? attempt.path with
  | some errno => simp [block, added, fault?, zero, opening, Call.addsRule]
  | none =>
      cases adding : host.ruleError? attempt.path <;>
        simp [block, added, fault?, zero, opening, adding, List.countP_cons, Call.addsRule]

end Attempt

namespace Ruleset

variable (host : Host)

/-- An attempt for a mask that may be granted follows the protocol. -/
theorem follows_allowMask (standing : ruleset.Stands base phase table) (attempt : Attempt)
    (grantable : attempt.mask.IsGrantable) :
    ((ruleset.allowMask attempt.mask attempt.path).run host table).trail.Follows base ruleset
      phase := by
  cases supported : ruleset.isSupported with
  | false =>
      rw [run_allowMask_unsupported host table supported]
      exact Trail.follows_rest standing
  | true =>
      cases standing with
      | committed descriptor state =>
          rw [run_allowMask_committed supported attempt state]
          exact Trail.follows_rest (.committed descriptor state)
      | @«open» descriptor state free =>
          rw [run_allowMask_open supported attempt state]
          refine ⟨.open descriptor, .open state free, ?_, ?_⟩
          · refine Attempt.leads_block grantable ?_
            exact (base.insert descriptor .ruleset).lowestFree_notMem
          · exact congrArg (ruleset.rules + ·) Attempt.countP_block.symm
      | fresh state =>
          cases creation : host.createError with
          | some errno =>
              rw [run_allowMask_refused supported attempt state creation]
              exact ⟨.fresh, .fresh state, (Phase.Next.creationRefused errno).leads, rfl⟩
          | none =>
              rw [run_allowMask_created supported attempt state creation]
              have free := base.lowestFree_notMem
              refine ⟨.open base.lowestFree, .open rfl free, ?_, ?_⟩
              · refine .next (.created free) ?_
                refine Attempt.leads_block grantable ?_
                exact (base.insert base.lowestFree .ruleset).lowestFree_notMem
              · exact congrArg (ruleset.rules + ·) Attempt.countP_block.symm

theorem follows_allow (standing : ruleset.Stands base phase table) (accessClass : AccessClass)
    (path : Path) :
    ((ruleset.allow accessClass path).run host table).trail.Follows base ruleset phase :=
  follows_allowMask host standing ⟨accessClass.mask, path⟩ accessClass.mask_isGrantable

/-- Attempts in order follow the protocol, by induction on the attempts. -/
theorem follows_allowEach {attempts : List Attempt}
    (grantable : ∀ attempt ∈ attempts, attempt.mask.IsGrantable)
    (standing : ruleset.Stands base phase table) :
    ((allowEach attempts ruleset).run host table).trail.Follows base ruleset phase := by
  induction attempts generalizing ruleset phase table with
  | nil => exact Trail.follows_rest standing
  | cons attempt attempts ih =>
      rw [trail_allowEach_cons]
      have first := follows_allowMask host standing attempt
        (grantable attempt List.mem_cons_self)
      refine first.behind ?_
      intro next standing'
      exact ih (fun other member => grantable other (List.mem_cons_of_mem attempt member))
        standing'

theorem leads_commitCalls_refused {host : Host} {taken : List Nat} {descriptor : Nat}
    {errno : Errno} (refused : host.commitError? = some errno) :
    (Phase.open descriptor).Leads taken (host.commitCalls descriptor) (.open descriptor) := by
  cases privilege : host.privilegeError with
  | some errno =>
      rw [Host.commitCalls, privilege]
      exact (Phase.Next.privilegesKept descriptor errno).leads
  | none =>
      cases restriction : host.restrictError with
      | some errno =>
          rw [Host.commitCalls, privilege, restriction]
          refine .next (.privilegesGivenUp descriptor) ?_
          exact (Phase.Next.restrictionRefused descriptor errno).leads
      | none => simp [Host.commitError?, privilege, restriction] at refused

theorem leads_commitCalls_granted {host : Host} {taken : List Nat} {descriptor : Nat}
    (free : descriptor ∉ taken) (granted : host.commitError? = none) :
    (Phase.open descriptor).Leads taken (host.commitCalls descriptor ++ [.close descriptor])
      (.committed descriptor) := by
  obtain ⟨privilege, restriction⟩ := Option.or_eq_none_iff.mp granted
  rw [Host.commitCalls, privilege, restriction]
  refine .next (.privilegesGivenUp descriptor) ?_
  refine .next (.restrictionGranted free) ?_
  exact (Phase.Next.released free).leads

theorem countP_commitCalls (descriptor : Nat) :
    (host.commitCalls descriptor).countP Call.addsRule = 0 := by
  cases privilege : host.privilegeError <;> simp [Host.commitCalls, privilege, Call.addsRule]

theorem follows_restrict (standing : ruleset.Stands base phase table) :
    (ruleset.restrict.run host table).trail.Follows base ruleset phase := by
  cases supported : ruleset.isSupported with
  | false =>
      rw [run_restrict_unsupported supported]
      exact Trail.follows_rest standing
  | true =>
      cases standing with
      | fresh state =>
          rw [run_restrict_idle supported (by simp [descriptor?, state])]
          exact Trail.follows_rest (.fresh state)
      | committed descriptor state =>
          rw [run_restrict_idle supported (by simp [descriptor?, state])]
          exact Trail.follows_rest (.committed descriptor state)
      | @«open» descriptor state free =>
          cases commit : host.commitError? with
          | some errno =>
              rw [run_restrict_refused supported state commit]
              refine ⟨.open descriptor, .open state free, leads_commitCalls_refused commit, ?_⟩
              exact congrArg (ruleset.rules + ·) (countP_commitCalls host descriptor).symm
          | none =>
              rw [run_restrict_enforced supported state commit]
              refine ⟨.committed descriptor, ?_, leads_commitCalls_granted free commit, ?_⟩
              · rw [Run.trail, DescriptorTable.erase_insert free]
                exact .committed descriptor rfl
              · simp [Run.trail, enforced, countP_commitCalls, Call.addsRule]

/-- Giving up a ruleset closes what it had open and nothing else. -/
theorem Stands.discard (standing : ruleset.Stands base phase table) :
    (ruleset.discard.run host table).table = base ∧
      ∃ next, phase.Leads base.descriptors (ruleset.discard.run host table).calls next := by
  rw [run_discard]
  cases standing with
  | fresh state =>
      rw [descriptor?, state]
      exact ⟨rfl, .fresh, .rest _⟩
  | committed descriptor state =>
      rw [descriptor?, state]
      exact ⟨rfl, .committed descriptor, .rest _⟩
  | @«open» descriptor state free =>
      rw [descriptor?, state]
      refine ⟨DescriptorTable.erase_insert free _, .discarded descriptor, ?_⟩
      exact (Phase.Next.discarded free).leads

end Ruleset

theorem Attempt.existing_isGrantable {host : Host} {rules : List ClassRule} {attempt : Attempt}
    (member : attempt ∈ existing host rules) : attempt.mask.IsGrantable := by
  obtain ⟨rule, _, rfl⟩ := List.mem_map.mp member
  exact rule.1.mask_isGrantable

theorem Baseline.homeMask_isGrantable : homeMask.IsGrantable := by
  decide

theorem Baseline.attempts_isGrantable (baseline : Baseline) (host : Host) :
    ∀ attempt ∈ baseline.attempts host, attempt.mask.IsGrantable := by
  intro attempt member
  rcases List.mem_append.mp member with atHome | among
  · cases known : baseline.home with
    | none => simp [known] at atHome
    | some home =>
        simp only [known, Option.map_some, Option.toList_some, List.mem_singleton] at atHome
        rw [atHome]
        exact homeMask_isGrantable
  · exact Attempt.existing_isGrantable among

theorem Context.attempts_isGrantable (context : Context) (host : Host) :
    ∀ attempt ∈ context.attempts host, attempt.mask.IsGrantable := by
  intro attempt member
  rcases List.mem_append.mp member with based | queued
  · rw [baselineAttempts] at based
    split at based
    · exact (context.baselineOn host).attempts_isGrantable host attempt based
    · exact absurd based List.not_mem_nil
  · exact Attempt.existing_isGrantable queued

section Operations

variable (host : Host) (standing : ruleset.Stands base phase table)
include standing

theorem Baseline.follows_apply (baseline : Baseline) :
    ((baseline.apply ruleset).run host table).trail.Follows base ruleset phase := by
  cases supported : ruleset.isSupported with
  | false =>
      have idle : ((baseline.apply ruleset).run host table).trail = ⟨ruleset, table, []⟩ := by
        simp [apply, supported, Run.trail]
      rw [idle]
      exact Trail.follows_rest standing
  | true =>
      rw [baseline.trail_apply host supported]
      exact Ruleset.follows_allowEach host (baseline.attempts_isGrantable host) standing

theorem DirectiveQueue.follows_apply (queue : DirectiveQueue) :
    ((queue.apply ruleset).run host table).trail.Follows base ruleset phase := by
  cases supported : ruleset.isSupported with
  | false =>
      have idle : ((queue.apply ruleset).run host table).trail = ⟨ruleset, table, []⟩ := by
        cases queue <;> simp [apply, supported, Run.trail]
      rw [idle]
      exact Trail.follows_rest standing
  | true =>
      rw [DirectiveQueue.trail_apply host queue supported]
      exact Ruleset.follows_allowEach host (fun _ => Attempt.existing_isGrantable) standing

theorem Context.follows_confineWith (context : Context) :
    ((context.confineWith ruleset).run host table).trail.Follows base ruleset phase := by
  cases supported : ruleset.isSupported with
  | false =>
      rw [context.run_confineWith_unsupported host supported]
      exact Trail.follows_rest standing
  | true =>
      obtain ⟨value, after, calls⟩ := context.run_confineWith host supported table
      let filled := (Ruleset.allowEach (context.attempts host) ruleset).run host table
      have whole : ((context.confineWith ruleset).run host table).trail =
          ((filled.value.2.restrict.run host filled.table).trail).behind filled.calls := by
        simp only [Run.trail, Trail.behind, value, after, calls, filled]
      rw [whole]
      have first := Ruleset.follows_allowEach host (context.attempts_isGrantable host) standing
      refine first.behind ?_
      intro next standing'
      exact Ruleset.follows_restrict host standing'

end Operations

/-- A confinement on a ruleset of its own follows the protocol over whatever is
open, and leaves that open. -/
theorem Context.follows_confine (context : Context) (host : Host) (table : DescriptorTable) :
    (context.confine.run host table).table = table ∧
      ∃ next, Phase.fresh.Leads table.descriptors (context.confine.run host table).calls next := by
  cases version : host.kernelVersion with
  | error failure =>
      rw [context.run_confine_of_unversioned host version]
      exact ⟨rfl, .fresh, .rest _⟩
  | ok kernel =>
      obtain ⟨_, after, calls⟩ := context.run_confine_of_version host version table
      have begun : (Ruleset.forKernel kernel).Stands table .fresh table := .fresh rfl
      obtain ⟨next, standing, leads, _⟩ := context.follows_confineWith host begun
      obtain ⟨closed, last, leads'⟩ := standing.discard host
      rw [after, calls]
      exact ⟨closed, last, leads.append leads'⟩

end FileConfinement
