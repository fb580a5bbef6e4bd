import FileConfinement.Proofs.Agreement
import FileConfinement.Proofs.CommitRetry
import FileConfinement.Proofs.Course
import FileConfinement.Proofs.Grants

/-!
# Restrictions without rules

A ruleset is created before the path of its first rule is opened.  When that path fails and no
other one succeeds, the ruleset is open without a rule, and the restriction does not look at the
rules: it puts the empty ruleset in force, which denies whatever rulesets handle.  In every other
state without rules there is nothing to enforce and the restriction is skipped without a call.
-/

namespace FileConfinement

namespace Ruleset

variable {ruleset : Ruleset} {host : Host} {table : DescriptorTable} {attempts : List Attempt}

theorem isOpen_iff : ruleset.isOpen = true ↔ ∃ descriptor, ruleset.state = .open descriptor := by
  simp only [isOpen, Option.isSome_iff_exists, descriptor?_eq_some_iff]

theorem Agrees.rules_eq_zero_iff {calls : List Call} (agrees : ruleset.Agrees calls) :
    ruleset.rules = 0 ↔ ∀ call ∈ calls, call.addsRule = false := by
  simp [agrees.rules_eq, List.countP_eq_zero]

theorem Agrees.isOpen_iff {calls : List Call} (agrees : ruleset.Agrees calls) :
    ruleset.isOpen = true ↔ ∃ handled descriptor,
      .createRuleset handled (.granted descriptor) ∈ calls ∧
        .restrict descriptor (.granted ()) ∉ calls := by
  simp only [Ruleset.isOpen_iff, agrees.open_iff]
  constructor
  · rintro ⟨descriptor, ⟨handled, created⟩, unrestricted⟩
    exact ⟨handled, descriptor, created, unrestricted⟩
  · rintro ⟨handled, descriptor, created, unrestricted⟩
    exact ⟨descriptor, ⟨handled, created⟩, unrestricted⟩

theorem addedBy_pos_iff :
    0 < addedBy attempts host ↔ ∃ attempt ∈ attempts, host.Accepts attempt.path := by
  simp only [addedBy, List.countP_pos_iff, decide_eq_true_eq, Attempt.fault?_eq_none_iff]

theorem addedBy_eq_zero_iff :
    addedBy attempts host = 0 ↔ ∀ attempt ∈ attempts, ¬ host.Accepts attempt.path := by
  simp only [addedBy, List.countP_eq_zero, decide_eq_true_eq, Attempt.fault?_eq_none_iff]

/-- What attempts leave open they have filled: every attempt that the host accepts is a rule. -/
theorem rules_of_open_allowEach (supported : ruleset.isSupported = true) {descriptor : Nat}
    (left : ((allowEach attempts ruleset).run host table).value.2.state = .open descriptor) :
    let run := (allowEach attempts ruleset).run host table
    run.value.2.rules = ruleset.rules + addedBy attempts host ∧
      run.calls.countP Call.addsRule = addedBy attempts host := by
  cases state : ruleset.state with
  | committed =>
      rw [run_allowEach_committed attempts supported state, state] at left
      exact absurd left (by simp)
  | «open» held =>
      rw [run_allowEach_open attempts supported state]
      exact ⟨rfl, Attempt.countP_blocks attempts⟩
  | uninitialized =>
      cases creation : host.createError with
      | some errno =>
          rw [run_allowEach_refused attempts supported state creation, state] at left
          exact absurd left (by simp)
      | none =>
          by_cases nothing : attempts = []
          · subst nothing
            exact ⟨rfl, rfl⟩
          · rw [run_allowEach_created nothing supported state creation]
            exact ⟨rfl, Attempt.countP_blocks attempts⟩

theorem commitAnswer_cases (host : Host) :
    commitAnswer host = .ok .enforced ∧ host.commitError? = none ∨
      ∃ fault, commitAnswer host = .error (.commit fault) ∧ host.commitError? ≠ none := by
  cases commit : host.commitError? with
  | none => exact .inl ⟨by simp [commitAnswer, commit], rfl⟩
  | some errno => exact .inr ⟨.code errno, by simp [commitAnswer, commit], by simp⟩

/-- The answer to a restriction depends on whether the ruleset is open and not on its rules. -/
theorem answer_restrict (supported : ruleset.isSupported = true) :
    (ruleset.restrict.run host table).value.1 =
      if ruleset.isOpen then commitAnswer host else .ok .skipped := by
  cases state : ruleset.state with
  | uninitialized => simp [run_restrict_idle supported, isOpen, descriptor?, state]
  | committed => simp [run_restrict_idle supported, isOpen, descriptor?, state]
  | «open» descriptor =>
      cases commit : host.commitError? with
      | some errno =>
          simp [run_restrict_refused supported state commit, isOpen, descriptor?, state,
            commitAnswer, commit]
      | none =>
          simp [run_restrict_enforced supported state commit, isOpen, descriptor?, state,
            commitAnswer, commit]

theorem restrict_enforced_iff (supported : ruleset.isSupported = true) :
    (ruleset.restrict.run host table).value.1 = .ok .enforced ↔
      ruleset.isOpen = true ∧ host.commitError? = none := by
  rw [answer_restrict supported]
  cases ruleset.isOpen with
  | false => simp
  | true =>
      rcases commitAnswer_cases host with ⟨answered, granted⟩ | ⟨fault, answered, refused⟩
      · simp [answered, granted]
      · simp [answered, refused]

theorem restrict_skipped_iff (supported : ruleset.isSupported = true) :
    (ruleset.restrict.run host table).value.1 = .ok .skipped ↔ ruleset.isOpen = false := by
  rw [answer_restrict supported]
  cases ruleset.isOpen with
  | false => simp
  | true =>
      rcases commitAnswer_cases host with ⟨answered, _⟩ | ⟨fault, answered, _⟩
      · simp [answered]
      · simp [answered]

/-- The restriction takes the rules as they are. -/
theorem restrict_enforced (supported : ruleset.isSupported = true)
    (answered : (ruleset.restrict.run host table).value.1 = .ok .enforced) :
    let run := ruleset.restrict.run host table
    run.value.2 = ruleset.enforced ∧ run.calls.countP Call.addsRule = 0 ∧
      ∃ descriptor, ruleset.state = .open descriptor := by
  obtain ⟨isOpen, granted⟩ := (restrict_enforced_iff supported).mp answered
  obtain ⟨descriptor, state⟩ := isOpen_iff.mp isOpen
  rw [run_restrict_enforced supported state granted]
  refine ⟨rfl, ?_, descriptor, state⟩
  simp [countP_commitCalls, Call.addsRule]

end Ruleset

/-- A confinement that enforces its rules has added one for every attempt that the host accepts,
and it enforces them even if there is none. -/
theorem Context.Course.countP_of_enforced {context : Context} {host : Host} {calls : List Call}
    (course : context.Course host (.ok .enforced) calls) :
    calls.countP Call.addsRule = Ruleset.addedBy (context.attempts host) host := by
  generalize same : (Except.ok RestrictStatus.enforced : Except Failure RestrictStatus) = answer
    at course
  cases course with
  | unversioned version => exact absurd same (by simp)
  | old version unsupported => exact absurd same (by simp)
  | idle version supported nothing => exact absurd same (by simp)
  | uncreated version supported refused => exact absurd same (by simp)
  | carried version supported something granted ruleset parent =>
      simp [List.countP_append, Attempt.countP_blocks, Ruleset.countP_commitCalls, Call.addsRule]

namespace Session

variable {session : Session} {ruleset : Ruleset}

theorem answer_restriction_iff {result : Except Failure RestrictStatus} {status : RestrictStatus} :
    answer .restriction result = .ok (.restriction status) ↔ result = .ok status := by
  cases result <;> simp [answer]

section AtHand

variable (atHand : session.ruleset = some ruleset)
include atHand

/-- A ruleset that is not open is not restricted, whatever its kernel. -/
theorem perform_restrict_of_closed (closed : ruleset.isOpen = false) :
    (session.perform .restrict).answer = .ok (.restriction .skipped) ∧
      (session.perform .restrict).calls = [] := by
  obtain ⟨host, table, ruleset'⟩ := session
  obtain rfl : ruleset' = some ruleset := atHand
  have idle : ruleset.descriptor? = none := by simpa [Ruleset.isOpen] using closed
  cases supported : ruleset.isSupported with
  | false =>
      simp only [perform, act, run_onRuleset, Ruleset.run_restrict_unsupported supported]
      exact ⟨rfl, trivial⟩
  | true =>
      simp only [perform, act, run_onRuleset, Ruleset.run_restrict_idle supported idle]
      exact ⟨rfl, trivial⟩

/-- An open ruleset is not skipped, be there rules in it or not. -/
theorem perform_restrict_of_open (supported : ruleset.isSupported = true)
    (isOpen : ruleset.isOpen = true) :
    (session.perform .restrict).answer ≠ .ok (.restriction .skipped) := by
  obtain ⟨host, table, ruleset'⟩ := session
  obtain rfl : ruleset' = some ruleset := atHand
  simp only [perform, act, run_onRuleset, ne_eq, answer_restriction_iff,
    Ruleset.restrict_skipped_iff supported, isOpen]
  exact Bool.noConfusion

theorem perform_restrict_enforced_iff (supported : ruleset.isSupported = true) :
    (session.perform .restrict).answer = .ok (.restriction .enforced) ↔
      ruleset.isOpen = true ∧ session.host.commitError? = none := by
  obtain ⟨host, table, ruleset'⟩ := session
  obtain rfl : ruleset' = some ruleset := atHand
  simp only [perform, act, run_onRuleset, answer_restriction_iff,
    Ruleset.restrict_enforced_iff supported]

theorem perform_restrict_enforced (supported : ruleset.isSupported = true)
    (enforced : (session.perform .restrict).answer = .ok (.restriction .enforced)) :
    (session.perform .restrict).session.ruleset =
      some ⟨ruleset.kernel, .committed, ruleset.rules⟩ := by
  obtain ⟨host, table, ruleset'⟩ := session
  obtain rfl : ruleset' = some ruleset := atHand
  simp only [perform, act, run_onRuleset, answer_restriction_iff] at enforced ⊢
  rw [(Ruleset.restrict_enforced supported enforced).1]
  rfl

/-- A context that is enforced leaves its ruleset committed, with one rule more for every attempt
that the host accepts. -/
theorem perform_confineWith_enforced {context : Context}
    (enforced : (session.perform (.confineWith context)).answer =
      .ok (.restriction .enforced)) :
    let outcome := session.perform (.confineWith context)
    let added := outcome.calls.countP Call.addsRule
    outcome.session.ruleset = some ⟨ruleset.kernel, .committed, ruleset.rules + added⟩ ∧
      added = Ruleset.addedBy (context.attempts session.host) session.host := by
  cases supported : ruleset.isSupported with
  | false =>
      rw [(Step.IsOperation.confineWith context).perform_of_unsupported atHand supported]
        at enforced
      exact absurd enforced (by simp [Step.degraded])
  | true =>
      obtain ⟨host, table, ruleset'⟩ := session
      obtain rfl : ruleset' = some ruleset := atHand
      obtain ⟨value, _, calls⟩ := context.run_confineWith host supported table
      have kernel := Ruleset.kernel_allowEach (context.attempts host) host table ruleset
      have filled := @Ruleset.rules_of_open_allowEach ruleset host table (context.attempts host)
        supported
      simp only [perform, act, run_onRuleset, value, calls, answer_restriction_iff]
        at enforced ⊢
      generalize (Ruleset.allowEach (context.attempts host) ruleset).run host table = run
        at enforced kernel filled ⊢
      have supported' : run.value.2.isSupported = true := by
        rwa [Ruleset.isSupported, kernel]
      obtain ⟨committed, silent, descriptor, state⟩ :=
        Ruleset.restrict_enforced supported' enforced
      obtain ⟨rules, counted⟩ := filled state
      rw [committed, List.countP_append, counted, silent, Nat.add_zero, ← rules, ← kernel]
      exact ⟨rfl, rfl⟩

end AtHand

/-- A confinement on a ruleset of its own that is enforced has added one rule for every attempt that
the host accepts. -/
theorem countP_perform_confine {context : Context}
    (enforced : (session.perform (.confine context)).answer = .ok (.restriction .enforced)) :
    (session.perform (.confine context)).calls.countP Call.addsRule =
      Ruleset.addedBy (context.attempts session.host) session.host := by
  have course := (context.confine_course session.host session.table).2
  simp only [perform, act, Action.run_bind, Action.run_pure, answer_restriction_iff,
    List.append_nil] at enforced ⊢
  rw [enforced] at course
  exact course.countP_of_enforced

/-- What requests leave behind of a new ruleset on one host: it is open without a rule exactly if it
could be created for them and the host accepts none of their attempts. -/
theorem requests_leave_empty_iff {kernel : KernelVersion} (recent : kernel.isSupported = true)
    (host : Host) {steps : List Step} (requests : ∀ step ∈ steps, step.IsRequest) :
    let attempts := steps.flatMap (·.attempts host)
    (∃ descriptor, ((begin host).after (.startFor kernel :: steps)).ruleset =
        some ⟨kernel, .open descriptor, 0⟩) ↔
      host.createError = none ∧ attempts ≠ [] ∧
        ∀ attempt ∈ attempts, ¬ host.Accepts attempt.path := by
  intro attempts
  have fresh : (Ruleset.forKernel kernel).isSupported = true := recent
  have reached : ((begin host).after (.startFor kernel :: steps)).ruleset =
      some ((Ruleset.allowEach attempts (.forKernel kernel)).run host []).value.2 :=
    congrArg Session.ruleset (after_requests requests fresh host []).1
  rw [reached, ← Ruleset.addedBy_eq_zero_iff]
  by_cases nothing : attempts = []
  · simp [nothing, Ruleset.forKernel]
  cases creation : host.createError with
  | some errno =>
      rw [Ruleset.run_allowEach_refused attempts fresh rfl creation]
      simp [Ruleset.forKernel]
  | none =>
      rw [Ruleset.run_allowEach_created nothing fresh rfl creation]
      simp [nothing, Ruleset.opened, Ruleset.grown, Ruleset.forKernel]

/-- The restriction of a ruleset that has accepted no rule is skipped without a call exactly if the
ruleset is not open.  An open one is put in force with the rules that it has, whether there are any
or not.  A context adds one rule to it for every attempt that the host accepts, so that it may
enforce none at all. -/
theorem empty_restriction_is_skipped_iff (host : Host) (steps : List Step)
    (atHand : ((begin host).after steps).ruleset = some ruleset) :
    let session := (begin host).after steps
    let outcome := session.perform .restrict
    let ledger := Ledger.after host steps
    let made := ledger.record.callsOf ledger.current
    (ruleset.rules = 0 ↔ ∀ call ∈ made, call.addsRule = false) ∧
    (ruleset.isOpen = true ↔ ∃ handled descriptor,
      .createRuleset handled (.granted descriptor) ∈ made ∧
        .restrict descriptor (.granted ()) ∉ made) ∧
    ((ruleset.rules = 0 →
        outcome.answer = .ok (.restriction .skipped) ∧ outcome.calls = []) ↔
      (ruleset.isOpen = true → 0 < ruleset.rules)) ∧
    (outcome.answer = .ok (.restriction .enforced) ↔
      ruleset.isOpen = true ∧ session.host.privilegeError = none ∧
        session.host.restrictError = none) ∧
    (outcome.answer = .ok (.restriction .enforced) →
      outcome.session.ruleset = some ⟨ruleset.kernel, .committed, ruleset.rules⟩) ∧
    (∀ context, (session.perform (.confineWith context)).answer = .ok (.restriction .enforced) →
      let outcome := session.perform (.confineWith context)
      let added := outcome.calls.countP Call.addsRule
      outcome.session.ruleset = some ⟨ruleset.kernel, .committed, ruleset.rules + added⟩ ∧
        (0 < added ↔ ∃ attempt ∈ context.attempts session.host,
          session.host.Accepts attempt.path)) ∧
    ∀ (other : Session) context,
      (other.perform (.confine context)).answer = .ok (.restriction .enforced) →
        (0 < (other.perform (.confine context)).calls.countP Call.addsRule ↔
          ∃ attempt ∈ context.attempts other.host, other.host.Accepts attempt.path) := by
  intro session outcome ledger made
  have agrees : ruleset.Agrees made := by
    refine (Ledger.sound_after host steps).agrees ?_
    rw [Ledger.after, Ledger.session_foldl]
    exact atHand
  have supported : ruleset.isOpen = true → ruleset.isSupported = true := by
    intro isOpen
    obtain ⟨descriptor, state⟩ := Ruleset.isOpen_iff.mp isOpen
    exact supported_of_begun atHand (by simp [state])
  have unenforced : ruleset.isOpen = false →
      outcome.answer ≠ .ok (.restriction .enforced) := by
    intro closed
    rw [(perform_restrict_of_closed atHand closed).1]
    simp
  refine ⟨agrees.rules_eq_zero_iff, agrees.isOpen_iff, ⟨?_, ?_⟩, ?_, ?_, ?_, ?_⟩
  · intro skips isOpen
    refine Nat.pos_of_ne_zero fun empty => ?_
    exact perform_restrict_of_open atHand (supported isOpen) isOpen (skips empty).1
  · intro filled empty
    refine perform_restrict_of_closed atHand ?_
    cases isOpen : ruleset.isOpen with
    | false => rfl
    | true => exact absurd empty (Nat.ne_of_gt (filled isOpen))
  · rw [← Option.or_eq_none_iff]
    cases isOpen : ruleset.isOpen with
    | false => simp [unenforced isOpen]
    | true =>
        rw [perform_restrict_enforced_iff atHand (supported isOpen), isOpen]
        rfl
  · intro enforced
    cases isOpen : ruleset.isOpen with
    | false => exact absurd enforced (unenforced isOpen)
    | true => exact perform_restrict_enforced atHand (supported isOpen) enforced
  · intro context enforced outcome added
    obtain ⟨committed, counted⟩ := perform_confineWith_enforced atHand enforced
    refine ⟨committed, ?_⟩
    rw [show added = _ from counted]
    exact Ruleset.addedBy_pos_iff
  · intro other context enforced
    rw [countP_perform_confine enforced, Ruleset.addedBy_pos_iff]

/-- A new ruleset is skipped, and with one rule in it it is put in force. -/
theorem empty_restriction_is_skipped_before_first_rule :
    let root := Path.ofString "/"
    let fresh := (begin (.willing [root])).after [.startFor ⟨6, 5⟩]
    let filled := (begin (.willing [root])).after [.startFor ⟨6, 5⟩, .allow .read root]
    fresh.ruleset = some ⟨⟨6, 5⟩, .uninitialized, 0⟩ ∧
      (fresh.perform .restrict).answer = .ok (.restriction .skipped) ∧
      (fresh.perform .restrict).calls = [] ∧
      filled.ruleset = some ⟨⟨6, 5⟩, .open 100, 1⟩ ∧
      (filled.perform .restrict).answer = .ok (.restriction .enforced) ∧
      (filled.perform .restrict).session.ruleset = some ⟨⟨6, 5⟩, .committed, 1⟩ := by
  intro root fresh filled
  have atHand : fresh.ruleset = some ⟨⟨6, 5⟩, .uninitialized, 0⟩ := by decide
  have atHand' : filled.ruleset = some ⟨⟨6, 5⟩, .open 100, 1⟩ := by decide
  obtain ⟨_, _, skips, _⟩ := empty_restriction_is_skipped_iff (.willing [root]) _ atHand
  obtain ⟨skipped, silent⟩ := skips.mpr (by decide) rfl
  obtain ⟨_, _, _, enforces, committed, _⟩ :=
    empty_restriction_is_skipped_iff (.willing [root]) _ atHand'
  have enforced := enforces.mpr ⟨by decide, by decide, by decide⟩
  exact ⟨atHand, skipped, silent, atHand', enforced, committed enforced⟩

/-- A path that does not exist: no rule is accepted, and the restriction enforces the ruleset that
was created for it. -/
theorem empty_restriction_is_enforced_behind_missing_path :
    let session := (begin (.willing [])).after [.startFor ⟨6, 5⟩, .allow .read (.ofString "/x")]
    let outcome := session.perform .restrict
    session.ruleset = some ⟨⟨6, 5⟩, .open 100, 0⟩ ∧
      outcome.answer = .ok (.restriction .enforced) ∧
      outcome.calls =
        [.giveUpPrivileges (.granted ()), .restrict 100 (.granted ()), .close 100] ∧
      outcome.events = [.restricted 0] ∧
      outcome.session.ruleset = some ⟨⟨6, 5⟩, .committed, 0⟩ ∧
      ¬ (outcome.answer = .ok (.restriction .skipped) ∧ outcome.calls = []) := by
  decide

end Session
end FileConfinement
