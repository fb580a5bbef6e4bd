import FileConfinement.Proofs.BaselineReport
import FileConfinement.Proofs.OldKernel
import FileConfinement.Proofs.QueueAccount

/-!
# A committed ruleset is final

A ruleset that is committed is inert: every rule is refused and there is nothing left to
restrict.  A queue adds nothing, and a baseline reports the failure of its attempt for the
home directory, which comes first.
-/

namespace FileConfinement

namespace Baseline

/-- The failure of the attempt for the home directory on a committed ruleset. -/
def refusal (home : Option Path) : Failure :=
  match home with
  | some _ => .alreadyEnforced
  | none => .insertion unknownHome .homeUnresolved

end Baseline

section Committed

variable {ruleset : Ruleset} (supported : ruleset.isSupported = true)
  (committed : ruleset.state = .committed) (host : Host) (table : DescriptorTable)
include supported committed

theorem Baseline.answer_apply_committed (baseline : Baseline) :
    ((baseline.apply ruleset).run host table).value.1 = .error (refusal baseline.home) := by
  have first : ∃ later, baseline.answers host ruleset =
      .error (refusal baseline.home) :: later := by
    cases known : baseline.home with
    | none => exact ⟨_, by rw [answers, unknownHomeAnswer, known]; rfl⟩
    | some home =>
        rw [answers, unknownHomeAnswer, attempts, known]
        exact ⟨_, congrArg (· :: _) (ruleset.answerTo_committed committed host ⟨homeMask, home⟩)⟩
  obtain ⟨later, first⟩ := first
  exact (baseline.value_apply_eq_error_iff supported table _).mpr ⟨[], later, first, by simp⟩

theorem DirectiveQueue.count_applyEach_committed (queue : DirectiveQueue) :
    ((queue.applyEach ruleset).run host table).value.1 = 0 := by
  rw [(queue.deals_applyEach supported table).2]
  exact count_added_eq_zero (ruleset.answerTo_committed committed host)

theorem Context.run_confineWith_committed (context : Context) :
    ((context.confineWith ruleset).run host table).value = (.ok .skipped, ruleset) ∧
      ((context.confineWith ruleset).run host table).table = table ∧
      ((context.confineWith ruleset).run host table).calls = [] := by
  obtain ⟨value, after, calls⟩ := context.run_confineWith host supported table
  have idle : ruleset.descriptor? = none := by simp [Ruleset.descriptor?, committed]
  rw [Ruleset.run_allowEach_committed _ supported committed,
    Ruleset.run_restrict_idle supported idle] at value after calls
  exact ⟨value, after, calls⟩

end Committed

namespace Session

/-- What an operation answers on a committed ruleset. -/
def Step.refused : Step → Except Refusal Answer
  | .allow _ _ => .error (.failed .alreadyEnforced)
  | .baseline rules => .error (.failed (Baseline.refusal rules.home))
  | .queue _ => .ok (.count 0)
  | .restrict | .confineWith _ => .ok (.restriction .skipped)
  | _ => .ok .done

variable {ruleset : Ruleset} {session : Session} {step : Step}

theorem Step.IsOperation.answer_of_committed (operation : step.IsOperation)
    (atHand : session.ruleset = some ruleset) (supported : ruleset.isSupported = true)
    (committed : ruleset.state = .committed) : (session.perform step).answer = step.refused := by
  obtain ⟨host, table, ruleset'⟩ := session
  obtain rfl : ruleset' = some ruleset := atHand
  cases operation with
  | allow accessClass path =>
      have refused := @Ruleset.run_allowMask_committed host table ruleset supported
        ⟨accessClass.mask, path⟩ committed
      simp only [perform, act, run_onRuleset, Ruleset.allow, refused]
      rfl
  | restrict =>
      have idle : ruleset.descriptor? = none := by simp [Ruleset.descriptor?, committed]
      simp only [perform, act, run_onRuleset, Ruleset.run_restrict_idle supported idle]
      rfl
  | baseline baseline =>
      have answered := baseline.answer_apply_committed supported committed host table
      simp only [perform, act, run_onRuleset, answered]
      rfl
  | queue queue =>
      have counted : ((queue.apply ruleset).run host table).value.1 = 0 := by
        simpa [DirectiveQueue.apply, supported] using
          queue.count_applyEach_committed supported committed host table
      simp only [perform, run_act_queue, counted]
      rfl
  | confineWith context =>
      obtain ⟨value, _, _⟩ := context.run_confineWith_committed supported committed host table
      simp only [perform, act, run_onRuleset, value]
      rfl

end Session

theorem Ruleset.isInert_of_committed {ruleset : Ruleset} (supported : ruleset.isSupported = true)
    (committed : ruleset.state = .committed) : ruleset.IsInert := by
  rintro ⟨host, table, ruleset'⟩ step atHand operation
  obtain rfl : ruleset' = some ruleset := atHand
  have requested : step.IsRequest →
      (Session.perform ⟨host, table, some ruleset⟩ step).session = ⟨host, table, some ruleset⟩ ∧
        (Session.perform ⟨host, table, some ruleset⟩ step).calls = [] := by
    intro request
    have performed := request.perform supported host table
    rwa [run_allowEach_committed _ supported committed] at performed
  cases operation with
  | allow accessClass path => exact requested (.allow accessClass path)
  | baseline baseline => exact requested (.baseline baseline)
  | queue queue => exact requested (.queue queue)
  | restrict =>
      have idle : ruleset.descriptor? = none := by simp [descriptor?, committed]
      simp only [Session.perform, Session.act, Session.run_onRuleset,
        run_restrict_idle supported idle]
      exact ⟨rfl, trivial⟩
  | confineWith context =>
      obtain ⟨value, after, calls⟩ :=
        context.run_confineWith_committed supported committed host table
      simp only [Session.perform, Session.act, Session.run_onRuleset, value, after, calls]
      exact ⟨rfl, trivial⟩

/-- Whatever operations follow on a committed ruleset that a session has reached, it stays
as it is and makes no call.  Every rule and every baseline is refused, and everything else
answers that there is nothing to do. -/
theorem committed_is_final (host : Host) (steps more : List Session.Step) {ruleset : Ruleset}
    (atHand : ((Session.begin host).after steps).ruleset = some ruleset)
    (committed : ruleset.state = .committed) (goesOn : ∀ step ∈ more, step.GoesOn) :
    let session := (Session.begin host).after steps
    (session.after more).ruleset = some ruleset ∧
      ruleset.descriptor? = none ∧
      (session.after more).table = session.table ∧
      session.callsOf more = [] ∧
      ∀ before step after, more = before ++ step :: after →
        let outcome := (session.after before).perform step
        outcome.session.ruleset = some ruleset ∧
          outcome.calls = [] ∧
          (∀ accessClass path, step = .allow accessClass path →
            outcome.answer = .error (.failed .alreadyEnforced)) ∧
          (step = .restrict → outcome.answer = .ok (.restriction .skipped)) ∧
          (∀ context, step = .confineWith context →
            outcome.answer = .ok (.restriction .skipped)) ∧
          (∀ queue, step = .queue queue → outcome.answer = .ok (.count 0)) ∧
          (∀ home uid runtimeDirectory, step = .baseline ⟨some home, uid, runtimeDirectory⟩ →
            outcome.answer = .error (.failed .alreadyEnforced)) ∧
          (∀ uid runtimeDirectory, step = .baseline ⟨none, uid, runtimeDirectory⟩ →
            outcome.answer =
              .error (.failed (.insertion Baseline.unknownHome .homeUnresolved))) := by
  have supported := Session.supported_of_begun atHand (by simp [committed])
  have inert := Ruleset.isInert_of_committed supported committed
  intro session
  obtain ⟨kept, unchanged, silent⟩ := inert.after atHand goesOn
  refine ⟨kept, by simp [Ruleset.descriptor?, committed], unchanged, silent, ?_⟩
  rintro before step after rfl
  obtain ⟨atHand', goesOn'⟩ := inert.reaches atHand goesOn
  generalize session.after before = reached at atHand'
  rcases goesOn' with operation | ⟨next, rfl⟩
  · have answered := operation.answer_of_committed atHand' supported committed
    obtain ⟨same, none'⟩ := inert reached step atHand' operation
    intro outcome
    rw [answered]
    refine ⟨(congrArg Session.ruleset same).trans atHand', none', ?_, ?_, ?_, ?_, ?_, ?_⟩
    · rintro accessClass path rfl
      rfl
    · rintro rfl
      rfl
    · rintro context rfl
      rfl
    · rintro queue rfl
      rfl
    · rintro home uid runtimeDirectory rfl
      rfl
    · rintro uid runtimeDirectory rfl
      rfl
  · refine ⟨atHand', rfl, ?_⟩
    simp

/-- A rule and a restriction after a commit on a host that refuses nothing. -/
theorem committed_is_final_on_willing_host :
    let root := Path.ofString "/"
    let steps : List Session.Step := [.startFor ⟨6, 5⟩, .allow .read root, .restrict]
    let more : List Session.Step := [.allow .write root, .restrict]
    let session := (Session.begin (.willing [root])).after steps
    session.ruleset = some ⟨⟨6, 5⟩, .committed, 1⟩ ∧ (∀ step ∈ more, step.GoesOn) ∧
      (session.after more).ruleset = some ⟨⟨6, 5⟩, .committed, 1⟩ ∧
      session.callsOf more = [] := by
  intro root steps more session
  have atHand : session.ruleset = some ⟨⟨6, 5⟩, .committed, 1⟩ := by decide
  have goesOn : ∀ step ∈ more, step.GoesOn := by
    intro step member
    rcases List.mem_pair.mp member with rfl | rfl
    · exact .inl (.allow .write root)
    · exact .inl .restrict
  obtain ⟨kept, _, _, silent, _⟩ := committed_is_final _ steps more atHand rfl goesOn
  exact ⟨atHand, goesOn, kept, silent⟩

end FileConfinement
