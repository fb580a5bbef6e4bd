import FileConfinement.Proofs.ExecutionGate

/-!
# Failing closed without best effort

A run without best effort is expected to execute its program only under the
restriction.  On a host that reports confinement as available, and for a context that
asks for at least the home directory, it does so exactly when the host can create
rulesets.  Where it cannot, every rule fails, nothing is left to restrict, and the
program is executed unconfined.
-/

namespace FileConfinement

namespace Context

theorem attempts_ne_nil_of_home {context : Context} {host : Host} {home : Path}
    (baseline : context.baseline = true) (resolved : context.homeDirectory host = .ok home) :
    context.attempts host ≠ [] := by
  simp [attempts, baselineAttempts, baseline, Baseline.attempts, baselineOn, resolved,
    Except.toOption]

end Context

namespace Command

/-- A program is executed only behind a restriction that succeeded, and without one the
run fails and executes nothing. -/
def Transcript.FailsClosed (transcript : Transcript) : Prop :=
  (∀ before program arguments reply after,
    transcript.calls = before ++ .execute program arguments reply :: after →
      ∃ descriptor, .restrict descriptor (.granted ()) ∈ before) ∧
  ((∀ descriptor, .restrict descriptor (.granted ()) ∉ transcript.calls) →
    transcript.exitCode = 1 ∧
      ∀ program arguments reply, .execute program arguments reply ∉ transcript.calls)

@[simp] theorem calls_transcript (presentation : Presentation) (run : Run Report) :
    (transcript presentation run).calls = run.calls := rfl

/-- A host on which confinement is reported as available has a supported kernel. -/
theorem supported_of_reported {host : Host} {support : Support}
    (reported : (checkSupport.run host []).value = .success (.support support))
    (available : support.isAvailable = true) :
    host.kernelVersion = .ok support.kernel ∧ support.kernel.isSupported = true := by
  have supported : support.kernel.isSupported = true := by
    rw [Support.isAvailable, Bool.and_eq_true] at available
    exact available.1
  cases version : host.kernelVersion with
  | error failure =>
      simp [checkSupport, Action.run_bind, Support.detect, version, Except.map, Report.success,
        Report.failed] at reported
  | ok kernel =>
      simp only [checkSupport, Action.run_bind, Action.run_report, Action.run_ask,
        Support.detect, version, Except.map, Action.run_pure, Report.success, Report.mk.injEq,
        Output.support.injEq, and_true] at reported
      rw [← reported]
      rw [← reported] at supported
      exact ⟨rfl, supported⟩

variable {settings : Settings} {program : String} {arguments : List String} {host : Host}
  {context : Context}

/-- A run fails closed when only a confinement with the restriction in force lets the
program be executed. -/
theorem failsClosed_of_restricts {report : Report} {calls : List Call}
    (verdict : Verdict settings program arguments host report calls)
    (loaded : settings.contextOn host = .ok context)
    (restricts : ∀ answer calls, context.Course host answer calls →
      settings.accepts answer = true → answer = .ok .enforced)
    (presentation : Presentation) (table : DescriptorTable) (events : List Event) :
    (transcript presentation ⟨report, table, calls, events⟩).FailsClosed := by
  cases verdict with
  | unloaded unloaded => simp [loaded] at unloaded
  | refused loaded' course refused =>
      refine ⟨?_, ?_⟩
      · intro before name given reply after split
        simp only [calls_transcript] at split
        refine absurd ?_ (course.execute_notMem name given reply)
        rw [split]
        exact List.mem_append_right before List.mem_cons_self
      · intro _
        exact ⟨rfl, course.execute_notMem⟩
  | executed loaded' course accepted =>
      obtain rfl := Except.ok.inj (loaded.symm.trans loaded')
      obtain rfl := restricts _ _ course accepted
      obtain ⟨descriptor, member⟩ := course.enforced_iff.mpr rfl
      refine ⟨?_, ?_⟩
      · intro before name given reply after split
        obtain ⟨rfl, _⟩ := Verdict.execute_last (.executed loaded' course accepted) split
        have same := (List.append_inj' split rfl).1
        exact ⟨descriptor, same ▸ member⟩
      · intro unrestricted
        exact absurd (List.mem_append_left _ member) (unrestricted descriptor)

/-- A run does not fail closed when all its calls are creations that were refused and the
program is executed after them. -/
theorem not_failsClosed_of_refused {transcript : Transcript} {creations : List Call}
    (refused : ∀ call ∈ creations, ∃ errno, call = .createRuleset .handled (.refused errno))
    {reply : Reply Unit}
    (calls : transcript.calls = creations ++ [.execute program arguments reply]) :
    ¬ transcript.FailsClosed := by
  rintro ⟨behind, _⟩
  obtain ⟨descriptor, member⟩ := behind creations program arguments reply [] calls
  obtain ⟨errno, same⟩ := refused _ member
  exact Call.noConfusion same

section Requested

variable {kernel : KernelVersion} (version : host.kernelVersion = .ok kernel)
  (supported : kernel.isSupported = true) (something : context.attempts host ≠ [])
include version supported something

/-- When no ruleset can be created, the program is executed behind nothing but refused
creations, whether or not best effort is asked for. -/
theorem calls_of_creation_refused (loaded : settings.contextOn host = .ok context)
    {errno : Errno} (refused : host.createError = some errno) {report : Report}
    {calls : List Call} (verdict : Verdict settings program arguments host report calls) :
    calls = (context.attempts host).map (fun _ => .createRuleset .handled (.refused errno)) ++
      [.execute program arguments (Kernel.replyUnless host.executeError)] := by
  cases verdict with
  | unloaded unloaded => simp [loaded] at unloaded
  | refused loaded' course failed =>
      obtain rfl := Except.ok.inj (loaded.symm.trans loaded')
      have answer := (course.of_refused version supported something refused).1
      exact absurd answer (by simp)
  | executed loaded' course accepted =>
      obtain rfl := Except.ok.inj (loaded.symm.trans loaded')
      rw [(course.of_refused version supported something refused).2]

/-- When a ruleset can be created, only the restriction lets the program be executed. -/
theorem restricts_of_creation_granted (granted : host.createError = none)
    (strict : settings.bestEffort = false) :
    ∀ answer calls, context.Course host answer calls →
      settings.accepts answer = true → answer = .ok .enforced := by
  intro answer calls course accepted
  have committed := course.of_granted version supported something granted
  rw [Ruleset.commitAnswer] at committed
  cases commit : host.commitError? with
  | some errno =>
      simp only [commit] at committed
      rw [committed, Settings.accepts_commit, strict] at accepted
      exact Bool.noConfusion accepted
  | none =>
      simp only [commit] at committed
      exact committed

end Requested

/-- On a host that reports confinement as available, a run without best effort whose
context asks for the home directory fails closed exactly when the host can create
rulesets.  Otherwise it executes the program although every creation was refused. -/
theorem run_failsClosed_iff (words : List Word) (environment : Environment) (host : Host)
    {verbose : Bool} {settings : Settings} {program : String} {arguments : List String}
    {support : Support} {context : Context} {home : Path}
    (accepted : Line.ofWords? words = some ⟨verbose, .run settings program arguments⟩)
    (strict : settings.bestEffort = false)
    (reported : (checkSupport.run host []).value = .success (.support support))
    (available : support.isAvailable = true)
    (loaded : settings.contextOn host = .ok context) (baseline : context.baseline = true)
    (resolved : context.homeDirectory host = .ok home) :
    ∃ transcript, main? words environment host = some transcript ∧
      (transcript.FailsClosed ↔ host.createError = none) ∧
      ∀ errno, host.createError = some errno →
        transcript.calls =
          (context.attempts host).map (fun _ => .createRuleset .handled (.refused errno)) ++
            [.execute program arguments (Kernel.replyUnless host.executeError)] := by
  obtain ⟨version, supported⟩ := supported_of_reported reported available
  have something := Context.attempts_ne_nil_of_home baseline resolved
  let run := (runProgram settings program arguments).run host []
  have verdict : Verdict settings program arguments host run.value run.calls :=
    runProgram_verdict settings program arguments host []
  have unconfined : ∀ errno, host.createError = some errno → _ := fun errno refused =>
    calls_of_creation_refused version supported something loaded refused verdict
  refine ⟨transcript (.ofEnvironment environment verbose) run, ?_, ⟨?_, ?_⟩, unconfined⟩
  · rw [main?, accepted]
    rfl
  · intro closed
    cases creation : host.createError with
    | none => rfl
    | some errno =>
        refine absurd closed (not_failsClosed_of_refused ?_ (unconfined errno creation))
        intro call member
        obtain ⟨attempt, _, rfl⟩ := List.mem_map.mp member
        exact ⟨errno, rfl⟩
  · intro granted
    have restricts :=
      restricts_of_creation_granted version supported something granted strict
    exact failsClosed_of_restricts verdict loaded restricts
      (.ofEnvironment environment verbose) run.table run.events

/-- A run of a program without options on a host that can create rulesets. -/
theorem run_failsClosed_on_willing_host :
    let home := Path.ofString "/home/a"
    let host := { Host.willing [home] with homeVariable := some home }
    Line.ofWords? (["run", "ls"].map Word.ofString) =
        some ⟨false, .run .none "ls" []⟩ ∧
      ∃ transcript, main? (["run", "ls"].map Word.ofString) [] host = some transcript ∧
        transcript.FailsClosed := by
  intro home host
  have accepted : Line.ofWords? (["run", "ls"].map Word.ofString) =
      some ⟨false, .run .none "ls" []⟩ := by decide
  have reported : (checkSupport.run host []).value = .success (.support ⟨⟨6, 5⟩, some 4⟩) := by
    decide
  obtain ⟨transcript, performed, closed, _⟩ :=
    run_failsClosed_iff (["run", "ls"].map Word.ofString) [] host accepted rfl reported
      (by decide) rfl rfl (show Context.default.homeDirectory host = .ok home by decide)
  exact ⟨accepted, transcript, performed, closed.mpr rfl⟩

/-- The same run where creating a ruleset fails for want of descriptors: everything that
is asked of it holds, and the program is executed unconfined. -/
theorem run_executes_unconfined_when_creation_refused :
    let home := Path.ofString "/home/a"
    let host := { Host.willing [.ofString "/", home] with
      homeVariable := some home, createError := some ⟨24⟩ }
    let words := ["run", "ls"].map Word.ofString
    Line.ofWords? words = some ⟨false, .run .none "ls" []⟩ ∧
      Settings.none.bestEffort = false ∧
      (checkSupport.run host []).value = .success (.support ⟨⟨6, 5⟩, some 4⟩) ∧
      Support.isAvailable ⟨⟨6, 5⟩, some 4⟩ = true ∧
      Settings.none.contextOn host = .ok .default ∧
      Context.default.baseline = true ∧
      Context.default.homeDirectory host = .ok home ∧
      ∃ transcript, main? words [] host = some transcript ∧
        .execute "ls" [] (.granted ()) ∈ transcript.calls ∧
        (∀ descriptor, .restrict descriptor (.granted ()) ∉ transcript.calls) ∧
        transcript.exitCode = 0 ∧
        ¬ transcript.FailsClosed := by
  intro home host words
  have accepted : Line.ofWords? words = some ⟨false, .run .none "ls" []⟩ := by decide
  have reported : (checkSupport.run host []).value = .success (.support ⟨⟨6, 5⟩, some 4⟩) := by
    decide
  have resolved : Context.default.homeDirectory host = .ok home := by decide
  obtain ⟨version, supported⟩ := supported_of_reported reported (by decide)
  have something := Context.attempts_ne_nil_of_home rfl resolved
  let run := (runProgram .none "ls" []).run host []
  have verdict : Verdict .none "ls" [] host run.value run.calls :=
    runProgram_verdict .none "ls" [] host []
  have calls := calls_of_creation_refused version supported something rfl rfl verdict
  have member : .execute "ls" [] (.granted ()) ∈ run.calls := by
    rw [calls]
    exact List.mem_append_right _ List.mem_cons_self
  refine ⟨accepted, rfl, reported, by decide, rfl, rfl, resolved,
    transcript (.ofEnvironment [] false) run, ?_, member, ?_, ?_, ?_⟩
  · rw [main?, accepted]
    rfl
  · intro descriptor restricts
    simp only [calls_transcript, calls, List.mem_append, List.mem_map, List.mem_singleton,
      reduceCtorEq, and_false, exists_false, or_false] at restricts
  · simp [transcript, verdict.failure_eq_none_iff.mpr member]
  · refine not_failsClosed_of_refused ?_ calls
    intro call among
    obtain ⟨attempt, _, rfl⟩ := List.mem_map.mp among
    exact ⟨⟨24⟩, rfl⟩

end Command
end FileConfinement
