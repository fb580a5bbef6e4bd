import FileConfinement.Command.Perform
import FileConfinement.Proofs.Course

/-!
# Runs of a program

A run of a program takes one of three ways: its configuration cannot be loaded, the
failure of its confinement keeps the program from being executed, or the program is
executed as the last call of all.
-/

namespace FileConfinement

theorem Host.kernelVersion_eq_ok_iff {host : Host} {kernel : KernelVersion} :
    host.kernelVersion = .ok kernel ↔
      host.releaseError = none ∧ KernelVersion.ofRelease? host.releaseText = some kernel := by
  cases named : host.releaseError <;>
    cases parsed : KernelVersion.ofRelease? host.releaseText <;>
      simp [kernelVersion, KernelVersion.ofRelease, named, parsed]

/-- The release of a host's kernel is known and begins with a version. -/
def Host.Versioned (host : Host) : Prop :=
  host.releaseError = none ∧ ∃ kernel, KernelVersion.ofRelease? host.releaseText = some kernel

theorem Host.versioned_iff {host : Host} :
    host.Versioned ↔ ∃ kernel, host.kernelVersion = .ok kernel := by
  simp only [Versioned, kernelVersion_eq_ok_iff, exists_and_left]

/-- The kernel of a host is below version 6.1. -/
def Host.Outdated (host : Host) : Prop :=
  ∃ kernel, KernelVersion.ofRelease? host.releaseText = some kernel ∧
    (kernel.major.toNat < 6 ∨ kernel.major.toNat = 6 ∧ kernel.minor.toNat < 1)

theorem Host.outdated_of_unsupported {host : Host} {kernel : KernelVersion}
    (version : host.kernelVersion = .ok kernel) (unsupported : kernel.isSupported = false) :
    host.Outdated := by
  refine ⟨kernel, (kernelVersion_eq_ok_iff.mp version).2, ?_⟩
  have below := mt kernel.isSupported_iff.mpr (by simp [unsupported])
  omega

namespace Command

theorem main?_of_ofWords? {words : List Word} {line : Line}
    (accepted : Line.ofWords? words = some line) (environment : Environment) (host : Host) :
    main? words environment host = some (line.perform environment host) := by
  rw [main?, accepted]
  rfl

namespace Settings

/-- The context that the options of a run ask for on a host. -/
def contextOn (settings : Settings) (host : Host) : Except Failure Context :=
  match settings.config with
  | .none => .ok (settings.adjust .default)
  | some path => (Context.load host path).map settings.adjust

/-- The configuration file loads, if one is given. -/
def Loads (settings : Settings) (host : Host) : Prop :=
  ∀ path, settings.config = some path → ∃ context, Context.load host path = .ok context

theorem loads_iff {settings : Settings} {host : Host} :
    settings.Loads host ↔ ∃ context, settings.contextOn host = .ok context := by
  rw [Loads, contextOn]
  cases settings.config with
  | none => simp
  | some path => cases loaded : Context.load host path <;> simp [loaded, Except.map]

/-- Whether the answer of a confinement lets the program be executed. -/
def accepts (settings : Settings) : Except Failure RestrictStatus → Bool
  | .ok _ => true
  | .error failure => failure.isCommitFailure && settings.bestEffort

@[simp] theorem accepts_commit (settings : Settings) (fault : IoFault) :
    settings.accepts (.error (.commit fault)) = settings.bestEffort := rfl

/-- What is accepted comes from a host whose kernel is known: best effort overrides
no other failure. -/
theorem versioned_of_accepts {settings : Settings} {context : Context} {host : Host}
    {answer : Except Failure RestrictStatus} {calls : List Call}
    (course : context.Course host answer calls) (accepted : settings.accepts answer = true) :
    ∃ kernel, host.kernelVersion = .ok kernel := by
  rcases answer with failure | status
  · rcases course.of_failed with ⟨unversioned, _⟩ | ⟨versioned, _⟩
    · simp only [accepts, Bool.and_eq_true] at accepted
      cases failure with
      | commit fault => exact absurd unversioned Host.kernelVersion_ne_commit
      | _ => exact absurd accepted.1 (by simp [Failure.isCommitFailure])
    · exact versioned
  · exact course.versioned

end Settings

variable {settings : Settings} {program : String} {arguments : List String} {host : Host}
  {report : Report} {calls : List Call}

theorem run_loadContext (settings : Settings) (host : Host) (table : DescriptorTable) :
    ((loadContext settings).run host table).value = settings.contextOn host ∧
      ((loadContext settings).run host table).table = table ∧
      ((loadContext settings).run host table).calls = [] := by
  cases config : settings.config <;>
    simp [loadContext, Settings.contextOn, config, Action.run_bind]

theorem run_objection (settings : Settings) (answer : Except Failure RestrictStatus)
    (table : DescriptorTable) :
    ((objection settings answer).run host table).table = table ∧
      ((objection settings answer).run host table).calls = [] ∧
      (settings.accepts answer = true →
        ((objection settings answer).run host table).value = none) ∧
      (∀ failure, answer = .error failure → settings.accepts answer = false →
        ((objection settings answer).run host table).value = some failure) := by
  rcases answer with failure | status
  · cases overridden : failure.isCommitFailure && settings.bestEffort <;>
      simp [objection, Settings.accepts, overridden]
  · cases status <;> simp [objection, Settings.accepts]

theorem run_executeProgram (program : String) (arguments : List String) (host : Host)
    (table : DescriptorTable) :
    ((executeProgram program arguments).run host table).value =
        ⟨.nothing, host.executeError.map (.execution program)⟩ ∧
      ((executeProgram program arguments).run host table).calls =
        [.execute program arguments (Kernel.replyUnless host.executeError)] := by
  cases execution : host.executeError <;>
    simp [executeProgram, Action.run_bind, execution, Report.success, Report.failed]

/-- The ways that a run of a program can take, with its report and its calls. -/
inductive Verdict (settings : Settings) (program : String) (arguments : List String)
    (host : Host) : Report → List Call → Prop where
  | unloaded {failure : Failure} (unloaded : settings.contextOn host = .error failure) :
      Verdict settings program arguments host (.failed (.confinement failure)) []
  | refused {context : Context} (loaded : settings.contextOn host = .ok context)
      {failure : Failure} {calls : List Call} (course : context.Course host (.error failure) calls)
      (refused : settings.accepts (.error failure) = false) :
      Verdict settings program arguments host (.failed (.confinement failure)) calls
  | executed {context : Context} (loaded : settings.contextOn host = .ok context)
      {answer : Except Failure RestrictStatus} {calls : List Call}
      (course : context.Course host answer calls) (accepted : settings.accepts answer = true) :
      Verdict settings program arguments host
        ⟨.nothing, host.executeError.map (.execution program)⟩
        (calls ++ [.execute program arguments (Kernel.replyUnless host.executeError)])

/-- A run whose configuration cannot be loaded. -/
theorem run_runProgram_unloaded {failure : Failure}
    (unloaded : settings.contextOn host = .error failure) (program : String)
    (arguments : List String) (table : DescriptorTable) :
    ((runProgram settings program arguments).run host table).value =
        .failed (.confinement failure) ∧
      ((runProgram settings program arguments).run host table).calls = [] := by
  obtain ⟨loaded, unchanged, silent⟩ := run_loadContext settings host table
  rw [unloaded] at loaded
  simp [runProgram, Action.run_bind, loaded, silent]

/-- A run on a context is a confinement whose answer decides about the program. -/
theorem run_runProgram_loaded {context : Context} (loaded : settings.contextOn host = .ok context)
    (program : String) (arguments : List String) (table : DescriptorTable) :
    let confined := context.confine.run host table
    let decided := (objection settings confined.value).run host confined.table
    let finished : Run Report := match decided.value with
      | some failure => ⟨.failed (.confinement failure), decided.table, [], []⟩
      | none => (executeProgram program arguments).run host decided.table
    ((runProgram settings program arguments).run host table).value = finished.value ∧
      ((runProgram settings program arguments).run host table).calls =
        confined.calls ++ (decided.calls ++ finished.calls) := by
  obtain ⟨answer, unchanged, silent⟩ := run_loadContext settings host table
  rw [loaded] at answer
  cases verdict : ((objection settings (context.confine.run host table).value).run host
      (context.confine.run host table).table).value <;>
    simp [runProgram, Action.run_bind, answer, unchanged, silent, verdict]

/-- A run of a program on a context calls what the confinement calls, and then executes
the program if the answer lets it. -/
theorem calls_runProgram_loaded {context : Context}
    (loaded : settings.contextOn host = .ok context) (program : String) (arguments : List String)
    (table : DescriptorTable) :
    ((runProgram settings program arguments).run host table).calls =
      (context.confine.run host table).calls ++
        if settings.accepts (context.confine.run host table).value then
          [.execute program arguments (Kernel.replyUnless host.executeError)]
        else
          [] := by
  obtain ⟨_, calls⟩ := run_runProgram_loaded loaded program arguments table
  rw [calls]
  generalize context.confine.run host table = confined
  obtain ⟨_, silent, accepting, refusing⟩ :=
    @run_objection host settings confined.value confined.table
  rw [silent, List.nil_append]
  cases accepted : settings.accepts confined.value with
  | true =>
      simp only [accepting accepted]
      exact congrArg (confined.calls ++ ·) (run_executeProgram program arguments host _).2
  | false =>
      cases answer : confined.value with
      | ok status => exact absurd (answer ▸ accepted) (by simp [Settings.accepts])
      | error failure =>
          rw [← answer]
          simp only [refusing failure answer accepted]
          rfl

theorem runProgram_verdict (settings : Settings) (program : String) (arguments : List String)
    (host : Host) (table : DescriptorTable) :
    Verdict settings program arguments host
      ((runProgram settings program arguments).run host table).value
      ((runProgram settings program arguments).run host table).calls := by
  cases loaded : settings.contextOn host with
  | error failure =>
      obtain ⟨value, calls⟩ := run_runProgram_unloaded loaded program arguments table
      rw [value, calls]
      exact .unloaded loaded
  | ok context =>
      obtain ⟨value, calls⟩ := run_runProgram_loaded loaded program arguments table
      obtain ⟨unchanged, course⟩ := context.confine_course host table
      generalize context.confine.run host table = confined at value calls unchanged course
      obtain ⟨kept, silent, accepting, refusing⟩ :=
        run_objection settings confined.value confined.table
      rw [value, calls, silent, List.nil_append]
      cases accepted : settings.accepts confined.value with
      | true =>
          obtain ⟨report, executed⟩ := run_executeProgram program arguments host confined.table
          simp only [accepting accepted, kept, report, executed]
          exact .executed loaded course accepted
      | false =>
          cases answer : confined.value with
          | ok status =>
              rw [answer] at accepted
              exact absurd accepted (by simp [Settings.accepts])
          | error failure =>
              rw [← answer]
              simp only [refusing failure answer accepted, List.append_nil]
              rw [answer] at course accepted
              exact .refused loaded course accepted

end Command
end FileConfinement
