import FileConfinement.Proofs.Grants
import FileConfinement.Proofs.ReferenceRun

/-!
# Resolution of the home directory

The home directory of the confined user is looked for in the context, in the environment and
in the user database.  When none of them knows it, the baseline rules stay as they are: what
is lost is the one grant beneath the home directory, and nothing else about a confinement
changes as long as some other rule has a path.
-/

namespace FileConfinement

namespace Host

/-- The home directory of a user in the user database, if it can be looked up. -/
def userHome? (host : Host) (uid : UInt32) : Option Path :=
  if host.userEntryError = none then host.userEntries.lookup uid else none

theorem toOption_homeOfUser (host : Host) (uid : UInt32) :
    (host.homeOfUser uid).toOption = host.userHome? uid := by
  cases failed : host.userEntryError with
  | some errno => simp [homeOfUser, userHome?, failed, Except.toOption]
  | none =>
      cases found : host.userEntries.lookup uid <;>
        simp [homeOfUser, userHome?, failed, found, Except.toOption]

theorem userHome?_eq_none_iff {host : Host} {uid : UInt32} :
    host.userHome? uid = none ↔
      host.userEntryError ≠ none ∨ host.userEntries.lookup uid = none := by
  by_cases failed : host.userEntryError = none <;> simp [userHome?, failed]

/-- A host with another `HOME` and another user database. -/
def withUserData (host : Host) (home : Option Path) (entries : List (UInt32 × Path))
    (error : Option Errno) : Host :=
  { host with homeVariable := home, userEntries := entries, userEntryError := error }

end Host

namespace Context

variable (context : Context) (host : Host)

/-- The home directory is the configured one, else the one of the environment unless it is
empty, else the one of the user database. -/
theorem toOption_homeDirectory :
    (context.homeDirectory host).toOption =
      (context.home.or (host.homeVariable.filter fun home => !home.bytes.isEmpty)).or
        (host.userHome? (context.userId host)) := by
  cases configured : context.home with
  | some home => simp [homeDirectory, configured, Except.toOption]
  | none =>
      cases variable' : host.homeVariable.filter fun home => !home.bytes.isEmpty with
      | some home => simp [homeDirectory, configured, variable', Except.toOption]
      | none =>
          simp only [homeDirectory, configured, variable', Option.or]
          exact host.toOption_homeOfUser (context.userId host)

end Context

theorem Attempt.existing_ne_nil {host : Host} {rules : List ClassRule} {rule : ClassRule}
    (member : rule ∈ rules) (found : host.pathExists rule.2 = true) :
    existing host rules ≠ [] :=
  List.map_eq_nil_iff.not.mpr (List.ne_nil_of_mem (List.mem_filter.mpr ⟨member, found⟩))

namespace Context

variable (context : Context) (host : Host)

/-- The attempts of a context besides the one for the home directory. -/
def homelessAttempts (context : Context) (host : Host) : List Attempt :=
  Attempt.existing host (context.baselineOn host).rules ++
    DirectiveQueue.attempts context.rules host

theorem attempts_eq_cons {home : Path} (baseline : context.baseline = true)
    (resolved : context.homeDirectory host = .ok home) :
    context.attempts host =
      ⟨Baseline.homeMask, home⟩ :: context.homelessAttempts host := by
  simp [attempts, baselineAttempts, baseline, Baseline.attempts, homelessAttempts, baselineOn,
    resolved, Except.toOption]

theorem attempts_eq_homeless {failure : Failure} (baseline : context.baseline = true)
    (unresolved : context.homeDirectory host = .error failure) :
    context.attempts host = context.homelessAttempts host := by
  simp [attempts, baselineAttempts, baseline, Baseline.attempts, homelessAttempts, baselineOn,
    unresolved, Except.toOption]

theorem homelessAttempts_ne_nil
    (found : (∃ rule ∈ (context.baselineOn host).rules, host.pathExists rule.2 = true) ∨
      ∃ directive ∈ context.rules, host.pathExists directive.path = true) :
    context.homelessAttempts host ≠ [] := by
  rcases found with ⟨rule, member, found⟩ | ⟨directive, member, found⟩
  · exact List.append_ne_nil_of_left_ne_nil (Attempt.existing_ne_nil member found) _
  · exact List.append_ne_nil_of_right_ne_nil _
      (Attempt.existing_ne_nil (List.mem_map_of_mem member) found)

end Context

/-! ### Grants of a confinement -/

theorem DescriptorTable.grants_eq_nil {table : DescriptorTable} {calls : List Call}
    (others : ∀ call ∈ calls, ∀ descriptor mask parent,
      call ≠ .addRule descriptor mask parent (.granted ())) :
    table.grants calls = [] := by
  refine List.eq_nil_iff_forall_not_mem.mpr fun attempt member => ?_
  obtain ⟨before, call, after, rfl, added⟩ := mem_grants_iff.mp member
  have other := others call (List.mem_append_right before List.mem_cons_self)
  cases call with
  | addRule descriptor mask parent reply =>
      cases reply with
      | granted value => exact other descriptor mask parent rfl
      | refused errno => exact absurd added (by simp [Call.granted?])
  | _ => exact absurd added (by simp [Call.granted?])

/-- What a host accepts of some attempts at a new ruleset. -/
def Host.accepted (host : Host) (attempts : List Attempt) : List Attempt :=
  if host.createError = none then
    attempts.filter fun attempt => attempt.fault? host = none
  else
    []

theorem Host.accepted_cons (host : Host) (attempt : Attempt) (attempts : List Attempt) :
    host.accepted (attempt :: attempts) = host.accepted attempts ∨
      host.accepted (attempt :: attempts) = attempt :: host.accepted attempts := by
  by_cases created : host.createError = none
  · by_cases faultless : attempt.fault? host = none <;> simp [accepted, created, faultless]
  · simp [accepted, created]

theorem grants_referenceCalls (host : Host) (table : DescriptorTable)
    (attempts : List Attempt) :
    table.grants (referenceCalls host table attempts) = host.accepted attempts := by
  by_cases nothing : attempts = []
  · simp [referenceCalls, nothing, DescriptorTable.grants, Host.accepted]
  cases creation : host.createError with
  | some errno =>
      have refused : host.accepted attempts = [] := by simp [Host.accepted, creation]
      rw [referenceCalls, if_neg nothing, creation, refused]
      refine DescriptorTable.grants_eq_nil fun call member => ?_
      obtain ⟨_, _, rfl⟩ := List.mem_map.mp member
      simp
  | none =>
      have last (table : DescriptorTable) (ruleset : Nat) :
          table.grants (host.commitCalls ruleset ++ [.close ruleset]) = [] := by
        refine DescriptorTable.grants_eq_nil fun call member => ?_
        simp only [List.mem_append, Host.mem_commitCalls_iff, List.mem_singleton] at member
        rcases member with (rfl | ⟨_, rfl⟩) | rfl <;> simp
      rw [referenceCalls, if_neg nothing, creation, List.cons_append, DescriptorTable.grants,
        DescriptorTable.grants_append, last, List.append_nil, Host.accepted, if_pos creation]
      exact Attempt.grants_blocks host (table.insert table.lowestFree .ruleset) attempts _

/-- Which attempts are made does not matter for the answer, if there are any. -/
theorem referenceAnswer_eq_of_ne_nil (host : Host) {attempts others : List Attempt}
    (something : attempts ≠ []) (something' : others ≠ []) :
    referenceAnswer host attempts = referenceAnswer host others := by
  simp [referenceAnswer, something, something']

namespace Context

/-- Without a home directory the baseline rules of a context stay as they are and only the
grant beneath it is lost.  The home directory is the configured one, else a non-empty one of
the environment, else that of the user database, and is absent when none of them knows it.
Of two hosts that differ only in what they know of home directories, a confinement grants the
same and answers the same, up to one leading grant for the home directory. -/
theorem unresolved_home_costs_one_grant (context : Context) (host : Host)
    (table : DescriptorTable) (baseline : context.baseline = true) :
    (∃ policy, (context.baselineRules.run host table).value = some policy ∧
      policy.home = (context.home.or (host.homeVariable.filter fun home => !home.bytes.isEmpty)).or
        (host.userHome? (context.uid.getD host.uid)) ∧
      (policy.home = none ↔ context.home = none ∧
        (∀ home, host.homeVariable = some home → home.bytes = []) ∧
        (host.userEntryError ≠ none ∨
          host.userEntries.lookup (context.uid.getD host.uid) = none)) ∧
      ∀ configured home entries error, ∃ other,
        (({ context with home := configured }).baselineRules.run
          (host.withUserData home entries error) table).value = some other ∧
        other.rules = policy.rules ∧
        other.userRuntimeDirectory = policy.userRuntimeDirectory) ∧
    ∀ home entries error failure directory kernel,
      let homeless := host.withUserData home entries error
      context.homeDirectory host = .ok directory →
      context.homeDirectory homeless = .error failure →
      host.kernelVersion = .ok kernel → kernel.isSupported = true →
      let run := context.confine.run host table
      let other := context.confine.run homeless table
      (table.grants run.calls = table.grants other.calls ∨
        table.grants run.calls =
          ⟨Baseline.homeMask, directory⟩ :: table.grants other.calls) ∧
      ((∃ rule ∈ (context.baselineOn host).rules, host.pathExists rule.2 = true) ∨
          (∃ directive ∈ context.rules, host.pathExists directive.path = true) →
        run.value = other.value) := by
  constructor
  · have policy {context : Context} (baseline : context.baseline = true) (host : Host) :
        (context.baselineRules.run host table).value = some (context.baselineOn host) := by
      rw [(context.run_baselineRules host table).1, if_pos baseline]
    have resolved : (context.baselineOn host).home = _ := context.toOption_homeDirectory host
    refine ⟨context.baselineOn host, policy baseline host, resolved, ?_, ?_⟩
    · rw [resolved]
      simp only [Option.or_eq_none_iff, Option.filter_eq_none_iff, and_assoc,
        Host.userHome?_eq_none_iff, Bool.not_eq_true', Bool.not_eq_false,
        List.isEmpty_iff]
      rfl
    · intro configured home entries error
      exact ⟨_, @policy { context with home := configured } baseline
        (host.withUserData home entries error), rfl, rfl⟩
  · intro home entries error failure directory kernel homeless resolved unresolved version
      supported
    obtain ⟨value, _, calls⟩ := context.run_confine_of_supported version supported table
    have version' : homeless.kernelVersion = .ok kernel := version
    obtain ⟨value', _, calls'⟩ := context.run_confine_of_supported version' supported table
    rw [context.attempts_eq_cons host baseline resolved] at value calls
    rw [context.attempts_eq_homeless homeless baseline unresolved] at value' calls'
    -- Everything else that a confinement asks of a host is the same on both by definition.
    have same : context.homelessAttempts homeless = context.homelessAttempts host := rfl
    rw [same] at value' calls'
    refine ⟨?_, fun found => ?_⟩
    · have accepts : homeless.accepted = host.accepted := rfl
      rw [calls, calls', grants_referenceCalls, grants_referenceCalls, accepts]
      exact host.accepted_cons _ _
    · have something := context.homelessAttempts_ne_nil host found
      have answers : referenceAnswer homeless = referenceAnswer host := rfl
      rw [value, value', answers]
      exact referenceAnswer_eq_of_ne_nil host (List.cons_ne_nil _ _) something

/-- A host that loses the variable for the home directory and has no user database. -/
theorem unresolved_home_costs_one_grant_on_willing_host :
    let root := Path.ofString "/"
    let home := Path.ofString "/home/a"
    let host := { Host.willing [root, home] with homeVariable := some home }
    let run := Context.default.confine.run host []
    let other := Context.default.confine.run (host.withUserData none [] none) []
    Context.default.baseline = true ∧ Context.default.homeDirectory host = .ok home ∧
      host.kernelVersion = .ok ⟨6, 5⟩ ∧ host.pathExists root = true ∧ run.value = other.value ∧
      (DescriptorTable.grants [] run.calls = DescriptorTable.grants [] other.calls ∨
        DescriptorTable.grants [] run.calls =
          ⟨Baseline.homeMask, home⟩ :: DescriptorTable.grants [] other.calls) := by
  intro root home host run other
  have resolved : Context.default.homeDirectory host = .ok home := by decide
  have version : host.kernelVersion = .ok ⟨6, 5⟩ := by decide
  have found : host.pathExists root = true := by decide
  have first : (.read, root) ∈ (Context.default.baselineOn host).rules := by decide
  obtain ⟨_, law⟩ := unresolved_home_costs_one_grant .default host [] rfl
  obtain ⟨grants, answer⟩ := law none [] none _ home _ resolved rfl version rfl
  exact ⟨rfl, resolved, version, found, answer (.inl ⟨_, first, found⟩), grants⟩

end Context
end FileConfinement
