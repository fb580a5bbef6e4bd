import FileConfinement.Proofs.ProgramRun
import FileConfinement.Proofs.ProgramWords

/-!
# The gate in front of the program

A program is executed last, once and by its own name, unless its configuration cannot
be loaded, the version of the kernel is unknown, or the restriction could not be put in
force and best effort was not asked for.  Best effort overrides nothing else.
-/

namespace FileConfinement
namespace Command

variable {settings : Settings} {program : String} {arguments : List String} {host : Host}
  {report : Report} {calls : List Call}

namespace Verdict

variable (verdict : Verdict settings program arguments host report calls)
include verdict

/-- The program is executed by the last call, and nothing else is executed. -/
theorem execute_last {before after : List Call} {name : String} {given : List String}
    {reply : Reply Unit} (split : calls = before ++ .execute name given reply :: after) :
    after = [] ∧ name = program ∧ given = arguments ∧
      reply = Kernel.replyUnless host.executeError := by
  have member : Call.execute name given reply ∈ calls := by
    rw [split]
    exact List.mem_append_right before List.mem_cons_self
  cases verdict with
  | unloaded unloaded => exact absurd member List.not_mem_nil
  | refused loaded course refused =>
      exact absurd member (course.execute_notMem name given reply)
  | executed loaded course accepted =>
      rcases place_of_append_singleton split with ⟨last, _, same⟩ | ⟨rest, earlier⟩
      · simp only [Call.execute.injEq] at same
        exact ⟨last, same.1.symm, same.2.1.symm, same.2.2.symm⟩
      · refine absurd ?_ (course.execute_notMem name given reply)
        rw [earlier]
        exact List.mem_append_right before List.mem_cons_self

/-- The program is executed unless something keeps it from being executed. -/
theorem executes_iff :
    (∃ reply, .execute program arguments reply ∈ calls) ↔
      settings.Loads host ∧ host.Versioned ∧
        ¬ ((∃ call ∈ calls, call.refusesCommit = true) ∧ settings.bestEffort = false) := by
  rw [Settings.loads_iff, Host.versioned_iff]
  cases verdict with
  | unloaded unloaded => simp [unloaded]
  | @refused context loaded failure calls course refused =>
      have none : ¬ ∃ reply, .execute program arguments reply ∈ calls := by
        rintro ⟨reply, member⟩
        exact course.execute_notMem program arguments reply member
      rw [iff_false_left none]
      rintro ⟨_, versioned, permitted⟩
      rcases course.of_failed with ⟨unversioned, _⟩ | ⟨_, commit⟩
      · simp [unversioned] at versioned
      · obtain ⟨fault, rfl⟩ := commit
        rw [Settings.accepts_commit] at refused
        exact permitted ⟨course.refusal_iff.mpr ⟨fault, rfl⟩, refused⟩
  | @executed context loaded answer calls course accepted =>
      constructor
      · intro _
        refine ⟨⟨context, loaded⟩, Settings.versioned_of_accepts course accepted, ?_⟩
        rintro ⟨⟨call, member, refuses⟩, strict⟩
        rcases List.mem_append.mp member with among | last
        · obtain ⟨fault, rfl⟩ := course.refusal_iff.mp ⟨call, among, refuses⟩
          rw [Settings.accepts_commit, strict] at accepted
          exact Bool.noConfusion accepted
        · rw [List.mem_singleton.mp last] at refuses
          exact Bool.noConfusion refuses
      · intro _
        exact ⟨_, List.mem_append_right _ List.mem_cons_self⟩

/-- Nothing is called when the configuration or the kernel's version is at fault. -/
theorem calls_eq_nil (atFault : ¬ settings.Loads host ∨ ¬ host.Versioned) : calls = [] := by
  rw [Settings.loads_iff, Host.versioned_iff] at atFault
  cases verdict with
  | unloaded unloaded => rfl
  | @refused context loaded failure calls course refused =>
      rcases course.of_failed with ⟨_, silent⟩ | ⟨versioned, _⟩
      · exact silent
      · rcases atFault with unloaded | unversioned
        · exact absurd ⟨context, loaded⟩ unloaded
        · exact absurd versioned unversioned
  | @executed context loaded answer calls course accepted =>
      rcases atFault with unloaded | unversioned
      · exact absurd ⟨context, loaded⟩ unloaded
      · exact absurd (Settings.versioned_of_accepts course accepted) unversioned

/-- The run fails unless the program was executed and took over. -/
theorem failure_eq_none_iff :
    report.failure = none ↔ .execute program arguments (.granted ()) ∈ calls := by
  cases verdict with
  | unloaded unloaded => simp [Report.failed]
  | refused loaded course refused =>
      simp [Report.failed, course.execute_notMem program arguments]
  | @executed context loaded answer calls course accepted =>
      cases host.executeError <;> simp [course.execute_notMem program arguments]

/-- Why a program may be executed without the restriction. -/
theorem of_unrestricted (executed : ∃ reply, .execute program arguments reply ∈ calls)
    (unrestricted : ∀ descriptor, .restrict descriptor (.granted ()) ∉ calls) :
    host.Outdated ∨
      ((∀ context, settings.contextOn host = .ok context →
          context.attempts host = [] ∨ host.createError ≠ none) ∧
        ∀ handled descriptor, .createRuleset handled (.granted descriptor) ∉ calls) ∨
      (settings.bestEffort = true ∧ ∃ call ∈ calls, call.refusesCommit = true) := by
  cases verdict with
  | unloaded unloaded => simp at executed
  | refused loaded course refused =>
      obtain ⟨reply, member⟩ := executed
      exact absurd member (course.execute_notMem program arguments reply)
  | @executed context loaded answer calls course accepted =>
      rcases answer with failure | status
      · rcases course.of_failed with ⟨unversioned, _⟩ | ⟨_, fault, rfl⟩
        · obtain ⟨kernel, versioned⟩ := Settings.versioned_of_accepts course accepted
          simp [versioned] at unversioned
        · obtain ⟨call, member, refuses⟩ := course.refusal_iff.mpr ⟨fault, rfl⟩
          exact .inr (.inr ⟨accepted, call, List.mem_append_left _ member, refuses⟩)
      · cases status with
        | enforced =>
            obtain ⟨descriptor, member⟩ := course.enforced_iff.mpr rfl
            exact absurd (List.mem_append_left _ member) (unrestricted descriptor)
        | skipped =>
            rcases course.of_skipped with ⟨kernel, version, unsupported⟩ | ⟨nothing, uncreated⟩
            · exact .inl (Host.outdated_of_unsupported version unsupported)
            · refine .inr (.inl ⟨?_, ?_⟩)
              · intro other loaded'
                obtain rfl := Except.ok.inj (loaded.symm.trans loaded')
                exact nothing
              · intro handled descriptor member
                simp only [List.mem_append, List.mem_singleton, reduceCtorEq, or_false] at member
                exact uncreated handled descriptor member

end Verdict

/-- Best effort makes no difference to a confinement that did not fail to commit. -/
theorem objection_eq_of_committed {answer : Except Failure RestrictStatus}
    (committed : ∀ fault, answer ≠ .error (.commit fault)) (first second : Settings) :
    objection first answer = objection second answer := by
  rcases answer with failure | status
  · cases failure with
    | commit fault => exact absurd rfl (committed fault)
    | _ => rfl
  · cases status <;> rfl

theorem runProgram_bestEffort (settings : Settings) (other : Bool) (program : String)
    (arguments : List String) (host : Host) (table : DescriptorTable)
    (unrefused : ∀ call ∈ ((runProgram settings program arguments).run host table).calls,
      call.refusesCommit = false) :
    (runProgram { settings with bestEffort := other } program arguments).run host table =
      (runProgram settings program arguments).run host table := by
  have loads : loadContext { settings with bestEffort := other } = loadContext settings := rfl
  obtain ⟨answer, unchanged, _⟩ := run_loadContext settings host table
  cases loaded : settings.contextOn host with
  | error failure =>
      rw [loaded] at answer
      simp [runProgram, Action.run_bind, loads, answer]
  | ok context =>
      rw [loaded] at answer
      have committed : ∀ fault, (context.confine.run host table).value ≠
          .error (.commit fault) := by
        intro fault failed
        obtain ⟨_, course⟩ := context.confine_course host table
        obtain ⟨call, member, refuses⟩ := course.refusal_iff.mpr ⟨fault, failed⟩
        obtain ⟨_, calls⟩ := run_runProgram_loaded loaded program arguments table
        have kept := unrefused call (by rw [calls]; exact List.mem_append_left _ member)
        exact Bool.noConfusion (kept.symm.trans refuses)
      have same := objection_eq_of_committed committed
        { settings with bestEffort := other } settings
      simp [runProgram, Action.run_bind, loads, answer, unchanged, same]

/-- The name of a program and its arguments on an accepted command line are executed
behind a gate. -/
theorem run_executes_behind_gate (words : List Word) (environment : Environment) (host : Host)
    {verbose : Bool} {settings : Settings} {program : String} {arguments : List String}
    (accepted : Line.ofWords? words = some ⟨verbose, .run settings program arguments⟩) :
    NamesProgram words program arguments ∧
    ∃ transcript, main? words environment host = some transcript ∧
      (∀ before after name given reply,
        transcript.calls = before ++ .execute name given reply :: after →
          after = [] ∧ name = program ∧ given = arguments) ∧
      ((∃ reply, .execute program arguments reply ∈ transcript.calls) ↔
        settings.Loads host ∧ host.Versioned ∧
          ¬ ((∃ call ∈ transcript.calls, call.refusesCommit = true) ∧
            settings.bestEffort = false)) ∧
      (¬ settings.Loads host ∨ ¬ host.Versioned → transcript.calls = []) ∧
      (transcript.exitCode = 0 ∧ .execute program arguments (.granted ()) ∈ transcript.calls ∨
        transcript.exitCode = 1 ∧ .execute program arguments (.granted ()) ∉ transcript.calls) ∧
      ((∃ reply, .execute program arguments reply ∈ transcript.calls) →
        (∀ descriptor, .restrict descriptor (.granted ()) ∉ transcript.calls) →
          host.Outdated ∨
          ((∀ context, settings.contextOn host = .ok context →
              context.attempts host = [] ∨ host.createError ≠ none) ∧
            ∀ handled descriptor,
              .createRuleset handled (.granted descriptor) ∉ transcript.calls) ∨
          (settings.bestEffort = true ∧
            ∃ call ∈ transcript.calls, call.refusesCommit = true)) ∧
      (∀ effort, (∀ call ∈ transcript.calls, call.refusesCommit = false) →
        Line.perform ⟨verbose, .run { settings with bestEffort := effort } program arguments⟩
          environment host = transcript) := by
  let run := (runProgram settings program arguments).run host []
  have verdict : Verdict settings program arguments host run.value run.calls :=
    runProgram_verdict settings program arguments host []
  refine ⟨Line.namesProgram_of_ofTop accepted,
    transcript (.ofEnvironment environment verbose) run, ?_, ?_, verdict.executes_iff,
    verdict.calls_eq_nil, ?_, verdict.of_unrestricted, ?_⟩
  · rw [main?, accepted]
    rfl
  · intro before after name given reply split
    obtain ⟨last, named, passed, _⟩ := verdict.execute_last split
    exact ⟨last, named, passed⟩
  · have decided := verdict.failure_eq_none_iff
    cases failed : run.value.failure with
    | none => exact .inl ⟨by simp [transcript, failed], decided.mp failed⟩
    | some failure =>
        refine .inr ⟨by simp [transcript, failed], ?_⟩
        intro member
        exact Option.some_ne_none failure (failed.symm.trans (decided.mpr member))
  · intro effort unrefused
    have same := runProgram_bestEffort settings effort program arguments host [] unrefused
    simp only [Line.perform, Request.perform, same, run]
    rfl

/-- A program with one argument is executed under best effort on a willing host. -/
theorem run_executes_with_best_effort :
    let words := ["run", "--best-effort", "ls", "-l"].map Word.ofString
    let settings := { Settings.none with bestEffort := true }
    Line.ofWords? words = some ⟨false, .run settings "ls" ["-l"]⟩ ∧
      ∃ transcript, main? words [] (.willing []) = some transcript ∧
        ∃ reply, .execute "ls" ["-l"] reply ∈ transcript.calls := by
  intro words settings
  have accepted : Line.ofWords? words = some ⟨false, .run settings "ls" ["-l"]⟩ := by decide
  obtain ⟨_, transcript, performed, _, gate, _⟩ :=
    run_executes_behind_gate words [] (.willing []) accepted
  refine ⟨accepted, transcript, performed, gate.mpr ⟨?_, ⟨rfl, ⟨6, 5⟩, by decide⟩, ?_⟩⟩
  · intro path given
    exact absurd given (by simp [settings, Settings.none])
  · rintro ⟨_, strict⟩
    exact Bool.noConfusion strict

end Command
end FileConfinement
