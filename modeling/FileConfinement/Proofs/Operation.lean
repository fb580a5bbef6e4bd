import FileConfinement.Proofs.Standing
import FileConfinement.Session

/-!
# Operations on one ruleset

A session goes on with the ruleset at hand through operations on it and changes of the
host.  Each operation follows the protocol of the ruleset.  A ruleset is inert when no
operation on it calls anything or changes the session; a session that goes on with an
inert ruleset keeps it for good.
-/

namespace FileConfinement
namespace Session

/-- An operation on the ruleset at hand. -/
inductive Step.IsOperation : Step → Prop where
  | allow (accessClass : AccessClass) (path : Path) : IsOperation (.allow accessClass path)
  | restrict : IsOperation .restrict
  | baseline (baseline : Baseline) : IsOperation (.baseline baseline)
  | queue (queue : DirectiveQueue) : IsOperation (.queue queue)
  | confineWith (context : Context) : IsOperation (.confineWith context)

/-- A step that goes on with the ruleset at hand. -/
def Step.GoesOn (step : Step) : Prop :=
  step.IsOperation ∨ ∃ host, step = .changeHost host

@[simp] theorem after_nil (session : Session) : session.after [] = session := rfl

@[simp] theorem after_cons (session : Session) (step : Step) (steps : List Step) :
    session.after (step :: steps) = (session.perform step).session.after steps := rfl

/-- The calls of some steps in order. -/
def callsOf (session : Session) (steps : List Step) : List Call :=
  (session.performAll steps).flatMap Outcome.calls

@[simp] theorem callsOf_nil (session : Session) : session.callsOf [] = [] := rfl

@[simp] theorem callsOf_cons (session : Session) (step : Step) (steps : List Step) :
    session.callsOf (step :: steps) =
      (session.perform step).calls ++ (session.perform step).session.callsOf steps :=
  List.flatMap_cons

theorem run_onRuleset {α : Type} (toAnswer : α → Answer)
    (operation : Ruleset → Action (Except Failure α × Ruleset)) (ruleset : Ruleset) (host : Host)
    (table : DescriptorTable) :
    (onRuleset (some ruleset) toAnswer operation).run host table =
      let run := (operation ruleset).run host table
      ⟨(answer toAnswer run.value.1, some run.value.2), run.table, run.calls, run.events⟩ := by
  simp [onRuleset]

theorem run_act_queue (queue : DirectiveQueue) (ruleset : Ruleset) (host : Host)
    (table : DescriptorTable) :
    (act (some ruleset) (.queue queue)).run host table =
      let run := (queue.apply ruleset).run host table
      ⟨(.ok (.count run.value.1), some run.value.2), run.table, run.calls, run.events⟩ := by
  simp [act, run_onRuleset, answer]

variable {base table : DescriptorTable} {ruleset : Ruleset} {phase : Phase} {step : Step}

theorem Step.IsOperation.follows (operation : step.IsOperation)
    (standing : ruleset.Stands base phase table) (host : Host) :
    let run := (act (some ruleset) step).run host table
    ∃ next, run.value.2 = some next ∧
      (⟨next, run.table, run.calls⟩ : Trail).Follows base ruleset phase := by
  cases operation with
  | allow accessClass path =>
      simp only [act, run_onRuleset]
      exact ⟨_, rfl, Ruleset.follows_allow host standing accessClass path⟩
  | restrict =>
      simp only [act, run_onRuleset]
      exact ⟨_, rfl, Ruleset.follows_restrict host standing⟩
  | baseline baseline =>
      simp only [act, run_onRuleset]
      exact ⟨_, rfl, baseline.follows_apply host standing⟩
  | queue queue =>
      simp only [run_act_queue]
      exact ⟨_, rfl, queue.follows_apply host standing⟩
  | confineWith context =>
      simp only [act, run_onRuleset]
      exact ⟨_, rfl, context.follows_confineWith host standing⟩

/-- A confinement on a ruleset of its own leaves a session as it was. -/
theorem session_perform_confine (session : Session) (context : Context) :
    (session.perform (.confine context)).session = session := by
  have restored := (context.follows_confine session.host session.table).1
  simp [perform, act, Step.hostAfter, restored]

theorem Step.IsOperation.perform_of_none (operation : step.IsOperation) {session : Session}
    (atHand : session.ruleset = none) :
    session.perform step = ⟨.error .noRuleset, session, [], []⟩ := by
  cases session
  cases operation <;> simp_all [perform, act, onRuleset, Step.hostAfter]

/-- A step that is no operation leaves the ruleset at hand, or an empty one in place of
it, or none. -/
theorem ruleset_perform_cases (session : Session) (step : Step) :
    step.IsOperation ∨ (session.perform step).session.ruleset = session.ruleset ∨
      (session.perform step).session.ruleset = none ∨
      ∃ kernel, (session.perform step).session.ruleset = some (.forKernel kernel) := by
  have replaced : ∀ kernel host table,
      ((replace session.ruleset (.forKernel kernel)).run host table).value.2 =
        some (.forKernel kernel) := by
    intro kernel host table
    cases session.ruleset <;> rfl
  cases step with
  | changeHost host => exact .inr (.inl rfl)
  | start =>
      cases version : session.host.kernelVersion with
      | error failure =>
          refine .inr (.inl ?_)
          simp [perform, act, Ruleset.start, version, Except.map]
      | ok kernel =>
          refine .inr (.inr (.inr ⟨kernel, ?_⟩))
          simp [perform, act, Ruleset.start, version, Except.map, replaced]
  | startFor kernel => exact .inr (.inr (.inr ⟨kernel, replaced kernel _ _⟩))
  | discard =>
      refine .inr (.inr (.inl ?_))
      cases atHand : session.ruleset <;> simp [perform, act, atHand]
  | allow accessClass path => exact .inl (.allow accessClass path)
  | restrict => exact .inl .restrict
  | baseline baseline => exact .inl (.baseline baseline)
  | queue queue => exact .inl (.queue queue)
  | confineWith context => exact .inl (.confineWith context)
  | confine context =>
      exact .inr (.inl (congrArg Session.ruleset (session.session_perform_confine context)))
  | askSupported => exact .inr (.inl rfl)
  | askAbi => exact .inr (.inl rfl)
  | askSupport => exact .inr (.inl rfl)

end Session

/-- No operation on the ruleset calls anything or changes the session. -/
def Ruleset.IsInert (ruleset : Ruleset) : Prop :=
  ∀ (session : Session) (step : Session.Step), session.ruleset = some ruleset →
    step.IsOperation → (session.perform step).session = session ∧ (session.perform step).calls = []

/-- A session that goes on with an inert ruleset keeps it and calls nothing. -/
theorem Ruleset.IsInert.after {ruleset : Ruleset} (inert : ruleset.IsInert) {session : Session}
    (atHand : session.ruleset = some ruleset) {steps : List Session.Step}
    (goesOn : ∀ step ∈ steps, step.GoesOn) :
    (session.after steps).ruleset = some ruleset ∧
      (session.after steps).table = session.table ∧ session.callsOf steps = [] := by
  induction steps generalizing session with
  | nil => exact ⟨atHand, rfl, rfl⟩
  | cons step steps ih =>
      have goesOn' : ∀ other ∈ steps, other.GoesOn := fun other member =>
        goesOn other (List.mem_cons_of_mem step member)
      rw [Session.after_cons, Session.callsOf_cons]
      rcases goesOn step List.mem_cons_self with operation | ⟨host, rfl⟩
      · obtain ⟨same, silent⟩ := inert session step atHand operation
        rw [same, silent]
        exact ih atHand goesOn'
      · obtain ⟨kept, unchanged, silent⟩ :=
          @ih (session.perform (.changeHost host)).session atHand goesOn'
        exact ⟨kept, unchanged, silent⟩

/-- At every step of such a session the inert ruleset is at hand. -/
theorem Ruleset.IsInert.reaches {ruleset : Ruleset} (inert : ruleset.IsInert)
    {session : Session} (atHand : session.ruleset = some ruleset)
    {before after : List Session.Step} {step : Session.Step}
    (goesOn : ∀ other ∈ before ++ step :: after, other.GoesOn) :
    (session.after before).ruleset = some ruleset ∧ step.GoesOn := by
  have earlier : ∀ other ∈ before, other.GoesOn := fun other member =>
    goesOn other (List.mem_append_left _ member)
  exact ⟨(inert.after atHand earlier).1,
    goesOn step (List.mem_append_right before List.mem_cons_self)⟩

end FileConfinement
