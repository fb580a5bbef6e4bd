import FileConfinement.Proofs.ContextAttempts
import FileConfinement.Proofs.Operation

/-!
# Requests for rules

Direct rules, baselines and queues ask for the rights of classes beneath paths, and each
becomes a list of attempts on a host.  Requests made one after the other leave behind
what all their attempts in order leave behind, so that on a ruleset that can be created
the grants are read off the attempts.
-/

namespace FileConfinement

namespace Attempt

variable {host : Host}

theorem mem_existing_iff {rules : List ClassRule} {attempt : Attempt} :
    attempt ∈ existing host rules ↔
      ∃ accessClass path, (accessClass, path) ∈ rules ∧ host.pathExists path = true ∧
        attempt = ⟨accessClass.mask, path⟩ := by
  constructor
  · intro member
    obtain ⟨⟨accessClass, path⟩, kept, rfl⟩ := List.mem_map.mp member
    obtain ⟨listed, found⟩ := List.mem_filter.mp kept
    exact ⟨accessClass, path, listed, found, rfl⟩
  · rintro ⟨accessClass, path, listed, found, rfl⟩
    exact List.mem_map.mpr ⟨(accessClass, path), List.mem_filter.mpr ⟨listed, found⟩, rfl⟩

end Attempt

namespace Baseline

theorem carries_homeMask (right : Right) :
    homeMask.carries right = true ↔
      ∃ accessClass : AccessClass, (accessClass = .read ∨ accessClass = .write) ∧
        accessClass.mask.carries right = true := by
  simp [homeMask]

theorem mem_attempts_iff {baseline : Baseline} {host : Host} {attempt : Attempt} :
    attempt ∈ baseline.attempts host ↔
      (∃ home, baseline.home = some home ∧ attempt = ⟨homeMask, home⟩) ∨
        attempt ∈ Attempt.existing host baseline.rules := by
  cases known : baseline.home <;> simp [attempts, known]

end Baseline

theorem DirectiveQueue.mem_attempts_iff {queue : DirectiveQueue} {host : Host}
    {attempt : Attempt} :
    attempt ∈ attempts queue host ↔
      ∃ accessClass path, (⟨accessClass, path⟩ : Directive) ∈ queue ∧
        host.pathExists path = true ∧ attempt = ⟨accessClass.mask, path⟩ := by
  rw [attempts, Attempt.mem_existing_iff]
  constructor
  · rintro ⟨accessClass, path, among, found, same⟩
    obtain ⟨directive, listed, pair⟩ := List.mem_map.mp among
    cases pair
    exact ⟨directive.accessClass, directive.path, listed, found, same⟩
  · rintro ⟨accessClass, path, listed, found, same⟩
    exact ⟨accessClass, path, List.mem_map_of_mem listed, found, same⟩

namespace Session

/-- An operation that asks for rules. -/
inductive Step.IsRequest : Step → Prop where
  | allow (accessClass : AccessClass) (path : Path) : IsRequest (.allow accessClass path)
  | baseline (baseline : Baseline) : IsRequest (.baseline baseline)
  | queue (queue : DirectiveQueue) : IsRequest (.queue queue)

/-- What an operation asks for on a host.  The home directory of a baseline is asked for
twice, the other rules and the directives only where their paths exist. -/
inductive Step.Requests (host : Host) : Step → AccessClass → Path → Prop where
  | allow (accessClass : AccessClass) (path : Path) :
      Requests host (.allow accessClass path) accessClass path
  | home {baseline : Baseline} {accessClass : AccessClass} {path : Path}
      (known : baseline.home = some path) (either : accessClass = .read ∨ accessClass = .write) :
      Requests host (.baseline baseline) accessClass path
  | rule {baseline : Baseline} {accessClass : AccessClass} {path : Path}
      (listed : (accessClass, path) ∈ baseline.rules) (found : host.pathExists path = true) :
      Requests host (.baseline baseline) accessClass path
  | directive {queue : DirectiveQueue} {accessClass : AccessClass} {path : Path}
      (listed : ⟨accessClass, path⟩ ∈ queue) (found : host.pathExists path = true) :
      Requests host (.queue queue) accessClass path

/-- The attempts that an operation makes for the rules it asks for. -/
def Step.attempts (host : Host) : Step → List Attempt
  | .allow accessClass path => [⟨accessClass.mask, path⟩]
  | .baseline rules => rules.attempts host
  | .queue directives => DirectiveQueue.attempts directives host
  | _ => []

/-- The attempts of an operation carry the rights of the classes that it asks for. -/
theorem Step.exists_attempt_iff (host : Host) (step : Step) (path : Path) (right : Right) :
    (∃ mask : AccessMask, ⟨mask, path⟩ ∈ step.attempts host ∧ mask.carries right = true) ↔
      ∃ accessClass : AccessClass, accessClass.mask.carries right = true ∧
        step.Requests host accessClass path := by
  constructor
  · rintro ⟨mask, member, carries⟩
    cases step with
    | allow accessClass path' =>
        cases List.mem_singleton.mp member
        exact ⟨accessClass, carries, .allow accessClass path⟩
    | baseline baseline =>
        rcases Baseline.mem_attempts_iff.mp member with ⟨home, known, same⟩ | among
        · cases same
          obtain ⟨accessClass, either, carries⟩ := (Baseline.carries_homeMask right).mp carries
          exact ⟨accessClass, carries, .home known either⟩
        · obtain ⟨accessClass, path', listed, found, same⟩ := Attempt.mem_existing_iff.mp among
          cases same
          exact ⟨accessClass, carries, .rule listed found⟩
    | queue queue =>
        obtain ⟨accessClass, path', listed, found, same⟩ :=
          DirectiveQueue.mem_attempts_iff.mp member
        cases same
        exact ⟨accessClass, carries, .directive listed found⟩
    | _ => exact absurd member List.not_mem_nil
  · rintro ⟨accessClass, carries, requested⟩
    cases requested with
    | allow => exact ⟨accessClass.mask, List.mem_singleton_self _, carries⟩
    | home known either =>
        exact ⟨Baseline.homeMask, Baseline.mem_attempts_iff.mpr (.inl ⟨path, known, rfl⟩),
          (Baseline.carries_homeMask right).mpr ⟨accessClass, either, carries⟩⟩
    | rule listed found =>
        have among := Attempt.mem_existing_iff.mpr ⟨accessClass, path, listed, found, rfl⟩
        exact ⟨accessClass.mask, Baseline.mem_attempts_iff.mpr (.inr among), carries⟩
    | directive listed found =>
        exact ⟨accessClass.mask,
          DirectiveQueue.mem_attempts_iff.mpr ⟨accessClass, path, listed, found, rfl⟩, carries⟩

variable {ruleset : Ruleset}

theorem Step.IsRequest.perform {step : Step} (request : step.IsRequest)
    (supported : ruleset.isSupported = true) (host : Host) (table : DescriptorTable) :
    let run := (Ruleset.allowEach (step.attempts host) ruleset).run host table
    let outcome := Session.perform ⟨host, table, some ruleset⟩ step
    outcome.session = ⟨host, run.table, some run.value.2⟩ ∧ outcome.calls = run.calls := by
  cases request with
  | allow accessClass path =>
      simp [Session.perform, act, run_onRuleset, Step.attempts, Step.hostAfter, Ruleset.allow,
        Ruleset.run_allowEach_cons]
  | baseline baseline =>
      have trail := baseline.trail_apply host supported table
      simp only [Run.trail, Trail.mk.injEq] at trail
      obtain ⟨value, after, calls⟩ := trail
      simp only [Session.perform, act, run_onRuleset, Step.attempts, value, after, calls]
      exact ⟨rfl, trivial⟩
  | queue queue =>
      have trail := DirectiveQueue.trail_apply host queue supported table
      simp only [Run.trail, Trail.mk.injEq] at trail
      obtain ⟨value, after, calls⟩ := trail
      simp only [Session.perform, run_act_queue, Step.attempts, value, after, calls]
      exact ⟨rfl, trivial⟩

/-- By induction on the steps, requests leave behind what their attempts leave behind. -/
theorem after_requests {steps : List Step} (requests : ∀ step ∈ steps, step.IsRequest)
    (supported : ruleset.isSupported = true) (host : Host) (table : DescriptorTable) :
    let run := (Ruleset.allowEach (steps.flatMap (·.attempts host)) ruleset).run host table
    let session : Session := ⟨host, table, some ruleset⟩
    session.after steps = ⟨host, run.table, some run.value.2⟩ ∧
      session.callsOf steps = run.calls := by
  induction steps generalizing ruleset table with
  | nil => exact ⟨rfl, rfl⟩
  | cons step steps ih =>
      let first := (Ruleset.allowEach (step.attempts host) ruleset).run host table
      obtain ⟨reached, made⟩ :=
        (requests step List.mem_cons_self).perform supported host table
      have supported' : first.value.2.isSupported = true := by
        rw [Ruleset.isSupported, Ruleset.kernel_allowEach]
        exact supported
      obtain ⟨reached', made'⟩ := ih
        (fun other member => requests other (List.mem_cons_of_mem step member)) supported'
        first.table
      have split := Ruleset.trail_allowEach_append (step.attempts host)
        (steps.flatMap (·.attempts host)) host table ruleset
      simp only [Run.trail, Trail.behind, Trail.mk.injEq] at split
      obtain ⟨value, after, calls⟩ := split
      simp only [after_cons, callsOf_cons, reached, made, List.flatMap_cons, value, after, calls]
      exact ⟨reached', congrArg (first.calls ++ ·) made'⟩

end Session
end FileConfinement
