import FileConfinement.Confinement
import FileConfinement.Proofs.AttemptList
import FileConfinement.Proofs.Commit

/-!
# The attempts of a context

Baseline rules and directives differ in what they report and count, but what they
leave behind of a ruleset is what the attempts for the paths that exist leave
behind.  The home directory is attempted whether or not it exists.
-/

namespace FileConfinement

/-- What a run leaves behind besides its answer and its reports. -/
structure Trail where
  ruleset : Ruleset
  table : DescriptorTable
  calls : List Call

/-- A trail with earlier calls in front. -/
def Trail.behind (calls : List Call) (trail : Trail) : Trail :=
  { trail with calls := calls ++ trail.calls }

@[simp] theorem Trail.behind_behind (first second : List Call) (trail : Trail) :
    (trail.behind second).behind first = trail.behind (first ++ second) := by
  simp [behind]

/-- The trail of a run that answers a ruleset. -/
def Run.trail {α : Type} (run : Run (α × Ruleset)) : Trail :=
  ⟨run.value.2, run.table, run.calls⟩

namespace Attempt

/-- The attempts for the rules whose paths exist on a host. -/
def existing (host : Host) (rules : List ClassRule) : List Attempt :=
  (rules.filter fun rule => host.pathExists rule.2).map fun rule => ⟨rule.1.mask, rule.2⟩

theorem existing_cons_of_exists {host : Host} {rule : ClassRule}
    (found : host.pathExists rule.2 = true) (rules : List ClassRule) :
    existing host (rule :: rules) = ⟨rule.1.mask, rule.2⟩ :: existing host rules := by
  simp [existing, found]

theorem existing_cons_of_missing {host : Host} {rule : ClassRule}
    (missing : host.pathExists rule.2 = false) (rules : List ClassRule) :
    existing host (rule :: rules) = existing host rules := by
  simp [existing, missing]

end Attempt

namespace Ruleset

theorem trail_allowEach_cons (attempt : Attempt) (attempts : List Attempt) (host : Host)
    (table : DescriptorTable) (ruleset : Ruleset) :
    ((allowEach (attempt :: attempts) ruleset).run host table).trail =
      let first := (ruleset.allowMask attempt.mask attempt.path).run host table
      (((allowEach attempts first.value.2).run host first.table).trail).behind first.calls := by
  simp [run_allowEach_cons, Run.trail, Trail.behind]

theorem trail_allowEach_append (first later : List Attempt) (host : Host)
    (table : DescriptorTable) (ruleset : Ruleset) :
    ((allowEach (first ++ later) ruleset).run host table).trail =
      let before := (allowEach first ruleset).run host table
      (((allowEach later before.value.2).run host before.table).trail).behind before.calls := by
  induction first generalizing table ruleset with
  | nil => rfl
  | cons attempt first ih =>
      rw [List.cons_append, trail_allowEach_cons]
      simp only [ih, Trail.behind_behind, run_allowEach_cons]

end Ruleset

namespace Baseline

/-- The attempts of the baseline rules on a host. -/
def attempts (baseline : Baseline) (host : Host) : List Attempt :=
  (baseline.home.map fun home => ⟨homeMask, home⟩).toList ++
    Attempt.existing host baseline.rules

variable (host : Host)

@[simp] theorem run_record {α : Type} (tally : Tally) (result : Except Failure α)
    (table : DescriptorTable) :
    ((record tally result).run host table).table = table ∧
      ((record tally result).run host table).calls = [] := by
  cases result <;> simp [record]

theorem trail_applyRules (rules : List ClassRule) (tally : Tally) (ruleset : Ruleset)
    (table : DescriptorTable) :
    ((applyRules rules tally ruleset).run host table).trail =
      ((Ruleset.allowEach (Attempt.existing host rules) ruleset).run host table).trail := by
  induction rules generalizing tally ruleset table with
  | nil => rfl
  | cons rule rules ih =>
      obtain ⟨accessClass, path⟩ := rule
      cases found : host.pathExists path with
      | true =>
          let first := (ruleset.allow accessClass path).run host table
          let next := ((record tally first.value.1).run host first.table).value
          have step : ((applyRules ((accessClass, path) :: rules) tally ruleset).run host
              table).trail =
                (((applyRules rules next first.value.2).run host first.table).trail).behind
                  first.calls := by
            simp [applyRules, Action.run_bind, found, Run.trail, Trail.behind, first, next]
          rw [step, ih, Attempt.existing_cons_of_exists found, Ruleset.trail_allowEach_cons]
          rfl
      | false =>
          rw [Attempt.existing_cons_of_missing found, ← ih tally]
          simp [applyRules, Action.run_bind, found, Run.trail]

theorem trail_apply (baseline : Baseline) {ruleset : Ruleset}
    (supported : ruleset.isSupported = true) (table : DescriptorTable) :
    ((baseline.apply ruleset).run host table).trail =
      ((Ruleset.allowEach (baseline.attempts host) ruleset).run host table).trail := by
  let home := (applyHome baseline.home ruleset).run host table
  have whole : ((baseline.apply ruleset).run host table).trail =
      (((applyRules baseline.rules home.value.1 home.value.2).run host
        home.table).trail).behind home.calls := by
    cases failure : ((applyRules baseline.rules home.value.1 home.value.2).run host
      home.table).value.1.first <;>
      simp [apply, supported, Action.run_bind, Run.trail, Trail.behind, failure, home]
  rw [whole, trail_applyRules]
  cases known : baseline.home with
  | none =>
      simp [home, applyHome, known, attempts, Trail.behind]
  | some directory =>
      simp [home, applyHome, known, Action.run_bind, attempts, Ruleset.trail_allowEach_cons,
        Trail.behind]

end Baseline

namespace DirectiveQueue

/-- The attempts of the directives on a host. -/
def attempts (queue : DirectiveQueue) (host : Host) : List Attempt :=
  Attempt.existing host (queue.map fun directive => (directive.accessClass, directive.path))

theorem attempts_cons_of_exists {host : Host} {directive : Directive}
    (found : host.pathExists directive.path = true) (queue : DirectiveQueue) :
    attempts (directive :: queue) host =
      ⟨directive.accessClass.mask, directive.path⟩ :: attempts queue host :=
  Attempt.existing_cons_of_exists found _

theorem attempts_cons_of_missing {host : Host} {directive : Directive}
    (missing : host.pathExists directive.path = false) (queue : DirectiveQueue) :
    attempts (directive :: queue) host = attempts queue host :=
  Attempt.existing_cons_of_missing missing _

variable (host : Host)

theorem trail_applyEach (queue : DirectiveQueue) (ruleset : Ruleset) (table : DescriptorTable) :
    ((applyEach queue ruleset).run host table).trail =
      ((Ruleset.allowEach (attempts queue host) ruleset).run host table).trail := by
  induction queue generalizing ruleset table with
  | nil => rfl
  | cons directive queue ih =>
      cases found : host.pathExists directive.path with
      | true =>
          let first := (ruleset.allow directive.accessClass directive.path).run host table
          have step : ((applyEach (directive :: queue) ruleset).run host table).trail =
              (((applyEach queue first.value.2).run host first.table).trail).behind
                first.calls := by
            cases answer : first.value.1 <;>
              simp [applyEach, Action.run_bind, found, Run.trail, Trail.behind, first, answer]
          rw [step, ih, attempts_cons_of_exists found, Ruleset.trail_allowEach_cons]
          rfl
      | false =>
          rw [attempts_cons_of_missing found, ← ih]
          simp [applyEach, Action.run_bind, found, Run.trail]

theorem trail_apply (queue : DirectiveQueue) {ruleset : Ruleset}
    (supported : ruleset.isSupported = true) (table : DescriptorTable) :
    ((queue.apply ruleset).run host table).trail =
      ((Ruleset.allowEach (attempts queue host) ruleset).run host table).trail := by
  rw [← trail_applyEach, apply]
  simp [supported]

end DirectiveQueue

namespace Context

/-- The baseline rules that a context asks for on a host, if it asks for them. -/
def baselineOn (context : Context) (host : Host) : Baseline where
  home := (context.homeDirectory host).toOption
  uid := context.userId host
  runtimeDirectory := context.runtimeDirectory

/-- The attempts of the baseline rules that a context asks for, none if it turns
them off. -/
def baselineAttempts (context : Context) (host : Host) : List Attempt :=
  if context.baseline then (context.baselineOn host).attempts host else []

/-- The attempts of a context on a host: those of the baseline and then those of the
directives. -/
def attempts (context : Context) (host : Host) : List Attempt :=
  context.baselineAttempts host ++ DirectiveQueue.attempts context.rules host

variable (host : Host)

theorem run_baselineRules (context : Context) (table : DescriptorTable) :
    (context.baselineRules.run host table).value =
        (if context.baseline then some (context.baselineOn host) else none) ∧
      (context.baselineRules.run host table).table = table ∧
      (context.baselineRules.run host table).calls = [] := by
  cases wanted : context.baseline with
  | false => simp [baselineRules, wanted]
  | true =>
      cases home : context.homeDirectory host <;>
        simp [baselineRules, wanted, home, Action.run_bind, baselineOn, Except.toOption]

theorem run_applyBaseline (context : Context) {ruleset : Ruleset}
    (supported : ruleset.isSupported = true) (table : DescriptorTable) :
    let filled := (Ruleset.allowEach (context.baselineAttempts host) ruleset).run host table
    ((context.applyBaseline ruleset).run host table).value = filled.value.2 ∧
      ((context.applyBaseline ruleset).run host table).table = filled.table ∧
      ((context.applyBaseline ruleset).run host table).calls = filled.calls := by
  obtain ⟨asked, unchanged, silent⟩ := context.run_baselineRules host table
  cases wanted : context.baseline with
  | false =>
      simp [applyBaseline, Action.run_bind, asked, unchanged, silent, wanted, baselineAttempts]
  | true =>
      have applied := (context.baselineOn host).trail_apply host supported table
      simp only [Run.trail, Trail.mk.injEq] at applied
      obtain ⟨value, after, calls⟩ := applied
      cases result : (((context.baselineOn host).apply ruleset).run host table).value.1 <;>
        simp [applyBaseline, Action.run_bind, asked, unchanged, silent, wanted, result, value,
          after, calls, baselineAttempts]

theorem run_commit (ruleset : Ruleset) (table : DescriptorTable) :
    ((commit ruleset).run host table).value = (ruleset.restrict.run host table).value ∧
      ((commit ruleset).run host table).table = (ruleset.restrict.run host table).table ∧
      ((commit ruleset).run host table).calls = (ruleset.restrict.run host table).calls := by
  cases run : ruleset.restrict.run host table with
  | mk value after calls events =>
      obtain ⟨answer, next⟩ := value
      cases answer <;> simp [commit, Action.run_bind, run]

/-- On a supported kernel a context is carried out by its attempts and the
restriction of the ruleset that they fill. -/
theorem run_confineWith (context : Context) {ruleset : Ruleset}
    (supported : ruleset.isSupported = true) (table : DescriptorTable) :
    let filled := (Ruleset.allowEach (context.attempts host) ruleset).run host table
    let committed := filled.value.2.restrict.run host filled.table
    ((context.confineWith ruleset).run host table).value = committed.value ∧
      ((context.confineWith ruleset).run host table).table = committed.table ∧
      ((context.confineWith ruleset).run host table).calls =
        filled.calls ++ committed.calls := by
  obtain ⟨value, after, calls⟩ := context.run_applyBaseline host supported table
  have kernel := Ruleset.kernel_allowEach (context.baselineAttempts host) host table ruleset
  have whole := Ruleset.trail_allowEach_append (context.baselineAttempts host)
    (DirectiveQueue.attempts context.rules host) host table ruleset
  generalize (Ruleset.allowEach (context.baselineAttempts host) ruleset).run host table = based
    at value after calls kernel whole
  have supported' : based.value.2.isSupported = true := by
    rwa [Ruleset.isSupported, kernel]
  have queued := DirectiveQueue.trail_apply host context.rules supported' based.table
  replace whole : ((Ruleset.allowEach (context.attempts host) ruleset).run host table).trail =
      (((context.rules.apply based.value.2).run host based.table).trail).behind based.calls := by
    rw [queued]
    exact whole
  simp only [Run.trail, Trail.behind, Trail.mk.injEq] at whole
  obtain ⟨value', after', calls'⟩ := whole
  simp only [value', after', calls']
  simp [confineWith, supported, Action.run_bind, value, after, calls, run_commit]

theorem run_confineWith_unsupported (context : Context) {ruleset : Ruleset}
    (unsupported : ruleset.isSupported = false) (table : DescriptorTable) :
    (context.confineWith ruleset).run host table =
      ⟨(.ok .skipped, ruleset), table, [], [.kernelTooOld ruleset.kernel]⟩ := by
  simp [confineWith, unsupported]

theorem run_confine_of_unversioned (context : Context) {failure : Failure}
    (version : host.kernelVersion = .error failure) (table : DescriptorTable) :
    context.confine.run host table = ⟨.error failure, table, [], []⟩ := by
  simp [confine, Ruleset.start, Action.run_bind, version, Except.map]

/-- A confinement on a ruleset of its own takes up that ruleset and gives it up
afterwards. -/
theorem run_confine_of_version (context : Context) {kernel : KernelVersion}
    (version : host.kernelVersion = .ok kernel) (table : DescriptorTable) :
    let carried := (context.confineWith (.forKernel kernel)).run host table
    let discarded := carried.value.2.discard.run host carried.table
    (context.confine.run host table).value = carried.value.1 ∧
      (context.confine.run host table).table = discarded.table ∧
      (context.confine.run host table).calls = carried.calls ++ discarded.calls := by
  simp [confine, Ruleset.start, Action.run_bind, version, Except.map]

end Context
end FileConfinement
