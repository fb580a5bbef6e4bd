import FileConfinement.Proofs.AttemptAnswers
import FileConfinement.Proofs.OldKernel
import FileConfinement.Proofs.Release

/-!
# Retrying a commit

A restriction that fails leaves a ruleset open on its descriptor, so that more rules may be added
to it and the restriction may be tried again.  The first one that the host does not refuse puts all
the rules in force that were added by then, on the same descriptor.
-/

namespace FileConfinement

namespace Attempt

variable {attempt : Attempt} {host : Host} {ruleset parent : Nat}

/-- An attempt at an open ruleset closes nothing but the descriptor of its own path. -/
theorem eq_parent_of_closed {descriptor : Nat}
    (closed : .close descriptor ∈ attempt.block host ruleset parent) : descriptor = parent := by
  cases zero : attempt.path.hasNul with
  | true => simp [block, zero] at closed
  | false =>
      cases opening : host.openError? attempt.path with
      | some errno => simp [block_of_refused zero opening] at closed
      | none => simpa [block_of_granted zero opening] using closed

theorem countP_blocks (attempts : List Attempt) :
    (attempts.flatMap (·.block host ruleset parent)).countP Call.addsRule =
      Ruleset.addedBy attempts host := by
  induction attempts with
  | nil => rfl
  | cons attempt attempts ih =>
      rw [List.flatMap_cons, List.countP_append, countP_block, ih, Ruleset.addedBy_cons]

end Attempt

/-- The calls for a restriction that a host refuses: the second one is only made if the first one
succeeds. -/
theorem Host.refused_commit_cases {host : Host} (ruleset : Nat) {errno : Errno}
    (refused : host.commitError? = some errno) :
    host.privilegeError = some errno ∧
        host.commitCalls ruleset = [.giveUpPrivileges (.refused errno)] ∨
      host.privilegeError = none ∧ host.restrictError = some errno ∧
        host.commitCalls ruleset =
          [.giveUpPrivileges (.granted ()), .restrict ruleset (.refused errno)] := by
  cases privilege : host.privilegeError with
  | some errno' =>
      obtain rfl : errno' = errno := by simpa [commitError?, privilege] using refused
      exact .inl ⟨rfl, by simp [commitCalls, privilege]⟩
  | none =>
      have restriction : host.restrictError = some errno := by
        simpa [commitError?, privilege] using refused
      exact .inr ⟨rfl, restriction, by simp [commitCalls, privilege, restriction]⟩

namespace Session

/-- A step that asks for rules or for the restriction, or changes the host. -/
inductive Step.IsPending : Step → Prop where
  | request {step : Step} (request : step.IsRequest) : IsPending step
  | restrict : IsPending .restrict
  | changeHost (host : Host) : IsPending (.changeHost host)

/-- The ruleset at hand is open on a descriptor. -/
structure HoldsOpen (session : Session) (ruleset : Ruleset) (descriptor : Nat) : Prop where
  atHand : session.ruleset = some ruleset
  supported : ruleset.isSupported = true
  state : ruleset.state = .open descriptor
  isOpen : descriptor ∈ session.table.descriptors

/-- What some calls leave of an open ruleset: it has more rules, on the descriptor that it had. -/
structure KeepsOpen (session next : Session) (ruleset : Ruleset) (descriptor : Nat)
    (calls : List Call) : Prop where
  holds : next.HoldsOpen (ruleset.grown (calls.countP Call.addsRule)) descriptor
  table : next.table = session.table
  unclosed : .close descriptor ∉ calls
  uncreated : ∀ call ∈ calls, call.creates = false

variable {session next last : Session} {ruleset : Ruleset} {descriptor : Nat}

theorem HoldsOpen.rest (holds : session.HoldsOpen ruleset descriptor) :
    session.KeepsOpen session ruleset descriptor [] where
  holds := holds
  table := rfl
  unclosed := List.not_mem_nil
  uncreated _ member := absurd member List.not_mem_nil

theorem KeepsOpen.append {first second : List Call}
    (keeps : session.KeepsOpen next ruleset descriptor first)
    (keeps' : next.KeepsOpen last (ruleset.grown (first.countP Call.addsRule)) descriptor
      second) : session.KeepsOpen last ruleset descriptor (first ++ second) where
  holds := by
    rw [List.countP_append, ← Ruleset.grown_grown]
    exact keeps'.holds
  table := keeps'.table.trans keeps.table
  unclosed member := (List.mem_append.mp member).elim keeps.unclosed keeps'.unclosed
  uncreated call member := (List.mem_append.mp member).elim (keeps.uncreated call)
    (keeps'.uncreated call)

namespace HoldsOpen

theorem perform_restrict_refused (holds : session.HoldsOpen ruleset descriptor) {errno : Errno}
    (refused : session.host.commitError? = some errno) :
    session.perform .restrict =
      ⟨.error (.failed (.commit (.code errno))), session, session.host.commitCalls descriptor,
        []⟩ := by
  obtain ⟨host, table, ruleset'⟩ := session
  obtain ⟨rfl, supported, state, _⟩ := holds
  simp only [perform, act, run_onRuleset, Ruleset.run_restrict_refused supported state refused]
  rfl

theorem perform_restrict_enforced (holds : session.HoldsOpen ruleset descriptor)
    (granted : session.host.commitError? = none) :
    session.perform .restrict =
      ⟨.ok (.restriction .enforced),
        ⟨session.host, session.table.erase descriptor, some ruleset.enforced⟩,
        session.host.commitCalls descriptor ++ [.close descriptor],
        [.restricted ruleset.rules]⟩ := by
  obtain ⟨host, table, ruleset'⟩ := session
  obtain ⟨rfl, supported, state, _⟩ := holds
  simp only [perform, act, run_onRuleset, Ruleset.run_restrict_enforced supported state granted]
  rfl

/-- A restriction of an open ruleset that answers a failure was refused by the host. -/
theorem commitError_of_failed (holds : session.HoldsOpen ruleset descriptor) {refusal : Refusal}
    (failed : (session.perform .restrict).answer = .error refusal) :
    ∃ errno, session.host.commitError? = some errno := by
  refine Option.ne_none_iff_exists'.mp fun granted => ?_
  rw [holds.perform_restrict_enforced granted] at failed
  exact absurd failed (by simp)

/-- Attempts at an open ruleset open other descriptors beside its own and close those again. -/
theorem perform_request (holds : session.HoldsOpen ruleset descriptor) {step : Step}
    (request : step.IsRequest) :
    session.KeepsOpen (session.perform step).session ruleset descriptor
      (session.perform step).calls := by
  obtain ⟨host, table, ruleset'⟩ := session
  obtain ⟨rfl, supported, state, isOpen⟩ := holds
  obtain ⟨reached, made⟩ := request.perform supported host table
  rw [Ruleset.run_allowEach_open _ supported state] at reached made
  rw [reached, made]
  refine ⟨⟨?_, supported, state, isOpen⟩, rfl, ?_, ?_⟩
  · rw [Attempt.countP_blocks]
  · intro closed
    obtain ⟨attempt, _, closed⟩ := List.mem_flatMap.mp closed
    -- The descriptor of a path is one that was free.
    exact table.lowestFree_notMem (Attempt.eq_parent_of_closed closed ▸ isOpen)
  · intro call member
    obtain ⟨attempt, _, member⟩ := List.mem_flatMap.mp member
    simpa using Attempt.creates_of_mem_block member

/-- By the kind of the step. -/
theorem perform (holds : session.HoldsOpen ruleset descriptor) {step : Step}
    (pending : step.IsPending)
    (failing : step = .restrict → ∃ refusal, (session.perform .restrict).answer = .error refusal) :
    session.KeepsOpen (session.perform step).session ruleset descriptor
      (session.perform step).calls := by
  cases pending with
  | request request => exact holds.perform_request request
  | changeHost host => exact ⟨⟨holds.atHand, holds.supported, holds.state, holds.isOpen⟩, rfl,
      List.not_mem_nil, fun _ member => absurd member List.not_mem_nil⟩
  | restrict =>
      obtain ⟨refusal, failed⟩ := failing rfl
      obtain ⟨errno, refused⟩ := holds.commitError_of_failed failed
      rw [holds.perform_restrict_refused refused]
      rcases Host.refused_commit_cases descriptor refused with ⟨_, calls⟩ | ⟨_, _, calls⟩
      · rw [calls]
        exact ⟨holds, rfl, by simp, by simp [Call.creates]⟩
      · rw [calls]
        exact ⟨holds, rfl, by simp, by simp [Call.creates]⟩

/-- By induction on the steps, each of which finds the ruleset open. -/
theorem after (holds : session.HoldsOpen ruleset descriptor) {steps : List Step}
    (pending : ∀ step ∈ steps, step.IsPending)
    (failing : ∀ before after, steps = before ++ .restrict :: after →
      ∃ refusal, ((session.after before).perform .restrict).answer = .error refusal) :
    session.KeepsOpen (session.after steps) ruleset descriptor (session.callsOf steps) := by
  induction steps generalizing session ruleset with
  | nil => exact holds.rest
  | cons step steps ih =>
      have first := holds.perform (pending step List.mem_cons_self) fun restricts =>
        failing [] steps (restricts ▸ rfl)
      have later := ih first.holds
        (fun other member => pending other (List.mem_cons_of_mem step member))
        (fun before after split => failing (step :: before) after (split ▸ rfl))
      rw [after_cons, callsOf_cons]
      exact first.append later

end HoldsOpen

/-- A session that has reached an open ruleset holds it open. -/
theorem holdsOpen_of_begun {host : Host} {steps : List Step}
    (atHand : ((begin host).after steps).ruleset = some ruleset)
    (state : ruleset.state = .open descriptor) :
    ((begin host).after steps).HoldsOpen ruleset descriptor := by
  have supported := supported_of_begun atHand (by simp [state])
  have held := (Ledger.sound_after host steps).descriptors
  rw [Ledger.after, Ledger.session_foldl, atHand] at held
  refine ⟨atHand, supported, state, ?_⟩
  rw [held]
  simp [Ruleset.descriptor?, state]

end Session

/-- A restriction that fails loses nothing.  Whatever rules are asked for and however the host
changes in between, the ruleset stays open on its descriptor while every restriction fails, and the
first one that the host does not refuse enforces all of its rules. -/
theorem failed_commit_is_retried (host : Host) (steps more : List Session.Step) {ruleset : Ruleset}
    {descriptor : Nat} (atHand : ((Session.begin host).after steps).ruleset = some ruleset)
    (isOpen : ruleset.state = .open descriptor) (pending : ∀ step ∈ more, step.IsPending)
    (failing : ∀ before after, more = before ++ .restrict :: after →
      ∃ refusal, ((((Session.begin host).after steps).after before).perform .restrict).answer =
        .error refusal) :
    let session := (Session.begin host).after steps
    let calls := session.callsOf more
    let rules := ruleset.rules + calls.countP Call.addsRule
    let reached := session.after more
    reached.ruleset = some ⟨ruleset.kernel, .open descriptor, rules⟩ ∧
      reached.table = session.table ∧
      .close descriptor ∉ calls ∧
      (∀ handled reply, .createRuleset handled reply ∉ calls) ∧
      (∀ before after, more = before ++ .restrict :: after →
        let current := session.after before
        let outcome := current.perform .restrict
        ∃ failure errno, outcome.answer = .error (.failed failure) ∧
          failure = .commit (.code errno) ∧ failure.isCommitFailure = true ∧
          outcome.session = current ∧
          (current.host.privilegeError = some errno ∧
              outcome.calls = [.giveUpPrivileges (.refused errno)] ∨
            current.host.privilegeError = none ∧ current.host.restrictError = some errno ∧
              outcome.calls =
                [.giveUpPrivileges (.granted ()), .restrict descriptor (.refused errno)])) ∧
      (reached.host.privilegeError = none → reached.host.restrictError = none →
        let outcome := reached.perform .restrict
        outcome.answer = .ok (.restriction .enforced) ∧
          outcome.calls = [.giveUpPrivileges (.granted ()), .restrict descriptor (.granted ()),
            .close descriptor] ∧
          outcome.events = [.restricted rules] ∧
          outcome.session.ruleset = some ⟨ruleset.kernel, .committed, rules⟩) := by
  have holds := Session.holdsOpen_of_begun atHand isOpen
  intro session calls rules reached
  have keeps : session.KeepsOpen reached ruleset descriptor calls := holds.after pending failing
  refine ⟨?_, keeps.table, keeps.unclosed, ?_, ?_, ?_⟩
  · rw [keeps.holds.atHand, ← isOpen]
    rfl
  · intro handled reply member
    exact Bool.noConfusion (keeps.uncreated _ member)
  · rintro before after rfl current outcome
    -- The steps before a restriction are as pending as all of them.
    have earlier : session.KeepsOpen current ruleset descriptor (session.callsOf before) := by
      refine holds.after (fun step member => pending step (List.mem_append_left _ member)) ?_
      rintro first later rfl
      exact failing first (later ++ .restrict :: after) (by simp)
    obtain ⟨refusal, failed⟩ := failing before after rfl
    obtain ⟨errno, refused⟩ := earlier.holds.commitError_of_failed failed
    have performed := earlier.holds.perform_restrict_refused refused
    rw [show outcome = _ from performed]
    refine ⟨.commit (.code errno), errno, rfl, rfl, rfl, rfl, ?_⟩
    exact Host.refused_commit_cases descriptor refused
  · intro privilege restriction outcome
    have granted : reached.host.commitError? = none := by
      simp [Host.commitError?, privilege, restriction]
    have performed := keeps.holds.perform_restrict_enforced granted
    rw [show outcome = _ from performed]
    refine ⟨rfl, ?_, rfl, rfl⟩
    simp [Host.commitCalls, privilege, restriction]

/-- A rule is added between a restriction that the host refuses and one that it does not. -/
theorem failed_commit_is_retried_on_another_host :
    let root := Path.ofString "/"
    let host := Host.willing [root]
    let refusing := { host with restrictError := some .notFound }
    let steps : List Session.Step := [.startFor ⟨6, 5⟩, .allow .read root]
    let more : List Session.Step := [.restrict, .allow .write root, .changeHost host]
    let session := (Session.begin refusing).after steps
    let reached := session.after more
    session.ruleset = some ⟨⟨6, 5⟩, .open 100, 1⟩ ∧
      (session.perform .restrict).answer = .error (.failed (.commit (.code .notFound))) ∧
      reached.ruleset = some ⟨⟨6, 5⟩, .open 100, 2⟩ ∧
      (reached.perform .restrict).answer = .ok (.restriction .enforced) ∧
      (reached.perform .restrict).events = [.restricted 2] := by
  intro root host refusing steps more session reached
  have atHand : session.ruleset = some ⟨⟨6, 5⟩, .open 100, 1⟩ := by decide
  have refused : (session.perform .restrict).answer =
      .error (.failed (.commit (.code .notFound))) := by decide
  have pending : ∀ step ∈ more, step.IsPending := by
    intro step member
    simp only [more, List.mem_cons, List.not_mem_nil, or_false] at member
    rcases member with rfl | rfl | rfl
    · exact .restrict
    · exact .request (.allow .write root)
    · exact .changeHost host
  have failing : ∀ before after, more = before ++ .restrict :: after →
      ∃ refusal, ((session.after before).perform .restrict).answer = .error refusal := by
    intro before after split
    -- Only the first step is a restriction.
    cases before with
    | nil => exact ⟨_, refused⟩
    | cons first before =>
        have among : .restrict ∈ [Session.Step.allow .write root, .changeHost host] :=
          (List.cons.inj split).2 ▸ List.mem_append_right before List.mem_cons_self
        simp at among
  have added : (session.callsOf more).countP Call.addsRule = 1 := by decide
  obtain ⟨kept, _, _, _, _, enforced⟩ :=
    failed_commit_is_retried refusing steps more atHand rfl pending failing
  obtain ⟨answered, _, reported, _⟩ := enforced rfl rfl
  rw [added] at kept reported
  exact ⟨atHand, refused, kept, answered, reported⟩

end FileConfinement
