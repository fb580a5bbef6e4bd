import FileConfinement.Proofs.ProgramRun
import FileConfinement.Proofs.Requests

/-!
# Kernels that are too old

On a kernel below version 6.1 every operation answers as if it had succeeded, warns
once, and does nothing: a ruleset for such a kernel is inert and stays empty, so that
one that is open or committed is for a kernel that is recent enough.  A confinement on
such a host does nothing either, and a program is executed by the only call of its run.
-/

namespace FileConfinement

theorem KernelVersion.isSupported_eq_false_iff (version : KernelVersion) :
    version.isSupported = false ↔
      version.major.toNat < 6 ∨ (version.major.toNat = 6 ∧ version.minor.toNat < 1) := by
  rw [Bool.eq_false_iff, ne_eq, version.isSupported_iff]
  omega

section Unsupported

variable {ruleset : Ruleset} (unsupported : ruleset.isSupported = false) (host : Host)
  (table : DescriptorTable)
include unsupported

theorem Baseline.run_apply_unsupported (baseline : Baseline) :
    (baseline.apply ruleset).run host table =
      ⟨(.ok (), ruleset), table, [], [.unsupported .baseline]⟩ := by
  simp [apply, unsupported]

theorem DirectiveQueue.run_apply_unsupported (queue : DirectiveQueue) :
    (queue.apply ruleset).run host table =
      ⟨(0, ruleset), table, [], if queue = [] then [] else [.unsupported .queue]⟩ := by
  cases queue <;> simp [apply, unsupported]

end Unsupported

namespace Session

/-- What an operation answers and reports on a kernel that is too old. -/
def Step.degraded (kernel : KernelVersion) : Step → Answer × List Event
  | .allow _ _ => (.rule .unsupported, [.unsupported .ruleset])
  | .restrict => (.restriction .skipped, [.unsupported .ruleset])
  | .baseline _ => (.done, [.unsupported .baseline])
  | .queue directives => (.count 0, if directives = [] then [] else [.unsupported .queue])
  | .confineWith _ => (.restriction .skipped, [.kernelTooOld kernel])
  | _ => (.done, [])

variable {ruleset : Ruleset} {session : Session} {step : Step}

theorem Step.IsOperation.perform_of_unsupported (operation : step.IsOperation)
    (atHand : session.ruleset = some ruleset) (unsupported : ruleset.isSupported = false) :
    session.perform step =
      ⟨.ok (step.degraded ruleset.kernel).1, session, [], (step.degraded ruleset.kernel).2⟩ := by
  obtain ⟨host, table, ruleset'⟩ := session
  obtain rfl : ruleset' = some ruleset := atHand
  cases operation with
  | allow accessClass path =>
      simp only [perform, act, run_onRuleset, Ruleset.allow,
        Ruleset.run_allowMask_unsupported host table unsupported]
      rfl
  | restrict =>
      simp only [perform, act, run_onRuleset, Ruleset.run_restrict_unsupported unsupported]
      rfl
  | baseline baseline =>
      simp only [perform, act, run_onRuleset,
        baseline.run_apply_unsupported unsupported host table]
      rfl
  | queue queue =>
      simp only [perform, run_act_queue,
        DirectiveQueue.run_apply_unsupported unsupported host table queue]
      rfl
  | confineWith context =>
      simp only [perform, act, run_onRuleset,
        context.run_confineWith_unsupported host unsupported table]
      rfl

/-- An operation on a kernel that is too old warns once, except that an empty queue has
nothing to warn of. -/
theorem Step.IsOperation.degraded_warns (operation : step.IsOperation) (kernel : KernelVersion)
    (asks : step ≠ .queue []) :
    ∃ event, (step.degraded kernel).2 = [event] ∧ event.level = .warning := by
  cases operation with
  | allow accessClass path => exact ⟨.unsupported .ruleset, rfl, rfl⟩
  | restrict => exact ⟨.unsupported .ruleset, rfl, rfl⟩
  | baseline baseline => exact ⟨.unsupported .baseline, rfl, rfl⟩
  | queue queue =>
      have something : queue ≠ [] := by
        rintro rfl
        exact asks rfl
      exact ⟨.unsupported .queue, if_neg something, rfl⟩
  | confineWith context => exact ⟨.kernelTooOld kernel, rfl, rfl⟩

/-- An operation leaves a ruleset for the same kernel at hand. -/
theorem Step.IsOperation.kernel (operation : step.IsOperation)
    (atHand : session.ruleset = some ruleset) :
    ∃ next, (session.perform step).session.ruleset = some next ∧
      next.kernel = ruleset.kernel := by
  cases supported : ruleset.isSupported with
  | false =>
      rw [operation.perform_of_unsupported atHand supported]
      exact ⟨ruleset, atHand, rfl⟩
  | true =>
      obtain ⟨host, table, ruleset'⟩ := session
      obtain rfl : ruleset' = some ruleset := atHand
      have requested : step.IsRequest → ∃ next, (perform ⟨host, table, some ruleset⟩
          step).session.ruleset = some next ∧ next.kernel = ruleset.kernel := by
        intro request
        rw [(request.perform supported host table).1]
        exact ⟨_, rfl, Ruleset.kernel_allowEach _ host table ruleset⟩
      cases operation with
      | allow accessClass path => exact requested (.allow accessClass path)
      | baseline baseline => exact requested (.baseline baseline)
      | queue queue => exact requested (.queue queue)
      | restrict =>
          simp only [perform, act, run_onRuleset]
          exact ⟨_, rfl, Ruleset.kernel_restrict host table ruleset⟩
      | confineWith context =>
          obtain ⟨value, _, _⟩ := context.run_confineWith host supported table
          simp only [perform, act, run_onRuleset, value]
          refine ⟨_, rfl, ?_⟩
          exact (Ruleset.kernel_restrict host _ _).trans
            (Ruleset.kernel_allowEach _ host table ruleset)

/-- A ruleset for a kernel that is too old is never created. -/
def UnsupportedStaysEmpty (session : Session) : Prop :=
  ∀ ruleset, session.ruleset = some ruleset → ruleset.isSupported = false →
    ruleset.state = .uninitialized

theorem UnsupportedStaysEmpty.perform (empty : session.UnsupportedStaysEmpty) (step : Step) :
    (session.perform step).session.UnsupportedStaysEmpty := by
  intro next atHand' unsupported'
  rcases session.ruleset_perform_cases step with operation | same | none' | ⟨kernel, renewed⟩
  · cases atHand : session.ruleset with
    | none =>
        rw [operation.perform_of_none atHand] at atHand'
        exact empty next atHand' unsupported'
    | some ruleset =>
        cases supported : ruleset.isSupported with
        | false =>
            rw [operation.perform_of_unsupported atHand supported] at atHand'
            exact empty next atHand' unsupported'
        | true =>
            -- The ruleset that is left is for the same kernel, hence for one that will do.
            obtain ⟨other, found, kernel⟩ := operation.kernel atHand
            obtain rfl := Option.some.inj (found.symm.trans atHand')
            rw [Ruleset.isSupported, kernel] at unsupported'
            exact absurd (supported.symm.trans unsupported') (by simp)
  · exact empty next (same ▸ atHand') unsupported'
  · exact absurd (none'.symm.trans atHand') (by simp)
  · obtain rfl := Option.some.inj (renewed.symm.trans atHand')
    rfl

theorem UnsupportedStaysEmpty.after (empty : session.UnsupportedStaysEmpty)
    (steps : List Step) : (session.after steps).UnsupportedStaysEmpty := by
  induction steps generalizing session with
  | nil => exact empty
  | cons step steps ih => exact ih (empty.perform step)

/-- A ruleset that is open or committed is one for a kernel that is recent enough. -/
theorem supported_of_begun {host : Host} {steps : List Step}
    (atHand : ((begin host).after steps).ruleset = some ruleset)
    (begun : ruleset.state ≠ .uninitialized) : ruleset.isSupported = true := by
  have empty : (begin host).UnsupportedStaysEmpty := by
    intro ruleset atHand
    exact absurd atHand (by simp [begin])
  by_contra unsupported
  exact begun (empty.after steps ruleset atHand (by simpa using unsupported))

end Session

theorem Ruleset.isInert_of_unsupported {ruleset : Ruleset}
    (unsupported : ruleset.isSupported = false) : ruleset.IsInert := by
  intro session step atHand operation
  rw [operation.perform_of_unsupported atHand unsupported]
  exact ⟨rfl, rfl⟩

theorem Context.run_confine_of_unsupported (context : Context) {host : Host}
    {kernel : KernelVersion} (version : host.kernelVersion = .ok kernel)
    (unsupported : kernel.isSupported = false) (table : DescriptorTable) :
    context.confine.run host table = ⟨.ok .skipped, table, [], [.kernelTooOld kernel]⟩ := by
  have fresh : (Ruleset.forKernel kernel).isSupported = false := unsupported
  have carried := context.run_confineWith_unsupported host fresh table
  simp only [confine, Ruleset.start, Action.run_bind, Action.run_ask, version, Except.map,
    carried]
  rfl

theorem Session.perform_confine_of_unsupported (session : Session) (context : Context)
    {kernel : KernelVersion} (version : session.host.kernelVersion = .ok kernel)
    (unsupported : kernel.isSupported = false) :
    session.perform (.confine context) =
      ⟨.ok (.restriction .skipped), session, [], [.kernelTooOld kernel]⟩ := by
  have confined := context.run_confine_of_unsupported version unsupported session.table
  simp only [perform, act, Action.run_bind, confined]
  rfl

namespace Command

/-- On a kernel that is too old a run executes the program by its only call, unless its
configuration cannot be loaded. -/
theorem calls_runProgram_of_unsupported {settings : Settings} {host : Host}
    {kernel : KernelVersion} (version : host.kernelVersion = .ok kernel)
    (unsupported : kernel.isSupported = false) (program : String) (arguments : List String)
    (table : DescriptorTable) :
    (settings.Loads host → ((runProgram settings program arguments).run host table).calls =
        [.execute program arguments (Kernel.replyUnless host.executeError)]) ∧
      (¬ settings.Loads host →
        ((runProgram settings program arguments).run host table).calls = []) := by
  rw [Settings.loads_iff]
  cases loaded : settings.contextOn host with
  | error failure =>
      obtain ⟨_, calls⟩ := run_runProgram_unloaded loaded program arguments table
      simp [calls]
  | ok context =>
      have confined := context.run_confine_of_unsupported version unsupported table
      have calls := calls_runProgram_loaded loaded program arguments table
      rw [confined] at calls
      simp [calls, Settings.accepts]

theorem main?_of_unsupported {settings : Settings} {host : Host} {kernel : KernelVersion}
    (version : host.kernelVersion = .ok kernel) (unsupported : kernel.isSupported = false)
    {words : List Word} {verbose : Bool} {program : String} {arguments : List String}
    (accepted : Line.ofWords? words = some ⟨verbose, .run settings program arguments⟩)
    (environment : Environment) :
    ∃ transcript, main? words environment host = some transcript ∧
      (settings.Loads host → transcript.calls =
        [.execute program arguments (Kernel.replyUnless host.executeError)]) ∧
      (¬ settings.Loads host → transcript.calls = []) := by
  obtain ⟨executed, unloaded⟩ :=
    calls_runProgram_of_unsupported version unsupported program arguments []
  refine ⟨Line.perform ⟨verbose, .run settings program arguments⟩ environment host, ?_,
    executed, unloaded⟩
  rw [main?, accepted]
  rfl

end Command

/-- On a kernel below version 6.1 every sequence of operations on a ruleset for that
kernel leaves it empty and calls nothing.  Every operation answers as if it had succeeded
and warns once, an empty queue not at all.  The same holds for a confinement on a host
with such a kernel, and a run of a program on it calls nothing but the program. -/
theorem old_kernel_degrades (kernel : KernelVersion)
    (below : kernel.major.toNat < 6 ∨ (kernel.major.toNat = 6 ∧ kernel.minor.toNat < 1))
    (host : Host) (table : DescriptorTable) (steps : List Session.Step)
    (goesOn : ∀ step ∈ steps, step.GoesOn) :
    let session : Session := ⟨host, table, some (.forKernel kernel)⟩
    (session.after steps).ruleset = some ⟨kernel, .uninitialized, 0⟩ ∧
      (session.after steps).table = table ∧
      session.callsOf steps = [] ∧
      (∀ before step after, steps = before ++ step :: after →
        let outcome := (session.after before).perform step
        outcome.session.ruleset = some ⟨kernel, .uninitialized, 0⟩ ∧
          outcome.calls = [] ∧
          (∀ accessClass path, step = .allow accessClass path →
            outcome.answer = .ok (.rule .unsupported)) ∧
          (step = .restrict → outcome.answer = .ok (.restriction .skipped)) ∧
          (∀ context, step = .confineWith context →
            outcome.answer = .ok (.restriction .skipped)) ∧
          (∀ baseline, step = .baseline baseline → outcome.answer = .ok .done) ∧
          (∀ queue, step = .queue queue → outcome.answer = .ok (.count 0)) ∧
          (step = .queue [] → outcome.events = []) ∧
          (step.IsOperation → step ≠ .queue [] →
            ∃ event, outcome.events = [event] ∧ event.level = .warning)) ∧
      ∀ other : Host, other.releaseError = none →
        KernelVersion.ofRelease? other.releaseText = some kernel →
        (∀ (context : Context) (session : Session), session.host = other →
          let outcome := session.perform (.confine context)
          outcome.answer = .ok (.restriction .skipped) ∧ outcome.session = session ∧
            outcome.calls = [] ∧
            ∃ event, outcome.events = [event] ∧ event.level = .warning) ∧
        ∀ words environment verbose settings program arguments,
          Command.Line.ofWords? words = some ⟨verbose, .run settings program arguments⟩ →
          ∃ transcript, Command.main? words environment other = some transcript ∧
            (settings.Loads other → transcript.calls =
              [.execute program arguments (Kernel.replyUnless other.executeError)]) ∧
            (¬ settings.Loads other → transcript.calls = []) := by
  have unsupported : kernel.isSupported = false := kernel.isSupported_eq_false_iff.mpr below
  have fresh : (Ruleset.forKernel kernel).isSupported = false := unsupported
  have inert := Ruleset.isInert_of_unsupported fresh
  intro session
  obtain ⟨kept, unchanged, silent⟩ := @inert.after _ session rfl steps goesOn
  refine ⟨kept, unchanged, silent, ?_, ?_⟩
  · rintro before step after rfl
    obtain ⟨atHand, goesOn'⟩ := @inert.reaches _ session rfl _ _ _ goesOn
    generalize session.after before = reached at atHand
    rcases goesOn' with operation | ⟨next, rfl⟩
    · rw [operation.perform_of_unsupported atHand fresh]
      refine ⟨atHand, rfl, ?_, ?_, ?_, ?_, ?_, ?_, ?_⟩
      · rintro accessClass path rfl
        rfl
      · rintro rfl
        rfl
      · rintro context rfl
        rfl
      · rintro baseline rfl
        rfl
      · rintro queue rfl
        rfl
      · rintro rfl
        rfl
      · intro _ asks
        exact operation.degraded_warns kernel asks
    · refine ⟨atHand, rfl, ?_⟩
      simp only [reduceCtorEq, false_implies, implies_true, true_and]
      intro operation
      cases operation
  · intro other named parsed
    have version : other.kernelVersion = .ok kernel :=
      Host.kernelVersion_eq_ok_iff.mpr ⟨named, parsed⟩
    refine ⟨?_, ?_⟩
    · rintro context session rfl
      rw [session.perform_confine_of_unsupported context version unsupported]
      exact ⟨rfl, rfl, rfl, .kernelTooOld kernel, rfl, rfl⟩
    · intro words environment verbose settings program arguments accepted
      exact Command.main?_of_unsupported version unsupported accepted environment

/-- A rule, a restriction and a program on a kernel 5.15. -/
theorem old_kernel_degrades_below_six :
    let root := Path.ofString "/"
    let kernel : KernelVersion := ⟨5, 15⟩
    let host := { Host.willing [root] with release := [53, 46, 49, 53] }
    let session : Session := ⟨host, [], some (.forKernel kernel)⟩
    let steps : List Session.Step := [.allow .read root, .restrict]
    (kernel.major.toNat < 6 ∨ (kernel.major.toNat = 6 ∧ kernel.minor.toNat < 1)) ∧
      (∀ step ∈ steps, step.GoesOn) ∧
      (session.after steps).ruleset = some ⟨kernel, .uninitialized, 0⟩ ∧
      session.callsOf steps = [] ∧
      ∃ transcript,
        Command.main? (["run", "ls"].map Command.Word.ofString) [] host = some transcript ∧
          transcript.calls = [.execute "ls" [] (.granted ())] := by
  intro root kernel host session steps
  have below : kernel.major.toNat < 6 ∨ (kernel.major.toNat = 6 ∧ kernel.minor.toNat < 1) :=
    .inl (by decide)
  have goesOn : ∀ step ∈ steps, step.GoesOn := by
    intro step member
    rcases List.mem_pair.mp member with rfl | rfl
    · exact .inl (.allow .read root)
    · exact .inl .restrict
  obtain ⟨kept, _, silent, _, programs⟩ := old_kernel_degrades kernel below host [] steps goesOn
  obtain ⟨_, run⟩ := programs host rfl (by decide)
  obtain ⟨transcript, performed, executed, _⟩ :=
    run (["run", "ls"].map Command.Word.ofString) [] false .none "ls" [] (by decide)
  refine ⟨below, goesOn, kept, silent, transcript, performed, executed ?_⟩
  intro path given
  exact absurd given (by simp [Command.Settings.none])

end FileConfinement
