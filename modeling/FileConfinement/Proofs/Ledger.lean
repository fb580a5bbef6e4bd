import FileConfinement.Proofs.Record
import FileConfinement.Proofs.Standing
import FileConfinement.Session

/-!
# The ledger of a session

A ledger follows a session and records each call for the ruleset that it serves.  A
ruleset is numbered by the operation that took it up; a confinement on a ruleset of
its own takes up and gives up one beside the ruleset at hand.  Whatever the operations
are and however the host changes between them, the ruleset at hand agrees with the
calls that were made for it, and the record as a whole is in order.
-/

namespace FileConfinement

/-- Whether an operation that answers takes up a ruleset in place of the one at
hand. -/
def Session.Step.renews : Session.Step → Except Session.Refusal Session.Answer → Bool
  | .start, .ok _ => true
  | .startFor _, .ok _ => true
  | _, _ => false

/-- A session with a record of its calls. -/
structure Ledger where
  session : Session
  /-- The number of the ruleset at hand. -/
  current : Nat
  /-- How many operations were carried out. -/
  steps : Nat
  record : Record

namespace Ledger

/-- The number of the ruleset that the calls of an operation serve. -/
def owner (ledger : Ledger) : Session.Step → Nat
  | .confine _ => ledger.steps
  | _ => ledger.current

/-- Carry out and record one operation. -/
def perform (ledger : Ledger) (step : Session.Step) : Ledger :=
  let outcome := ledger.session.perform step
  { session := outcome.session
    current := if step.renews outcome.answer then ledger.steps else ledger.current
    steps := ledger.steps + 1
    record := ledger.record ++ .of (ledger.owner step) outcome.calls }

/-- The ledger of some operations from the start of a session. -/
def after (host : Host) (steps : List Session.Step) : Ledger :=
  steps.foldl perform ⟨.begin host, 0, 0, []⟩

/-- Every call of a record serves a ruleset with a number below a bound. -/
def Numbered (record : Record) (bound : Nat) : Prop :=
  ∀ entry ∈ record, entry.owner < bound

theorem Numbered.succ {record : Record} {bound : Nat} (numbered : Numbered record bound) :
    Numbered record (bound + 1) := by
  intro entry member
  exact Nat.lt_succ_of_lt (numbered entry member)

theorem Numbered.append {record : Record} {bound owner : Nat} (numbered : Numbered record bound)
    (known : owner < bound) (calls : List Call) :
    Numbered (record ++ .of owner calls) bound := by
  intro entry member
  rcases List.mem_append.mp member with old | new
  · exact numbered entry old
  · obtain ⟨call, _, rfl⟩ := List.mem_map.mp new
    exact known

theorem Numbered.callsOf_bound {record : Record} {bound : Nat}
    (numbered : Numbered record bound) : record.callsOf bound = [] :=
  Record.callsOf_eq_nil fun entry member => Nat.ne_of_lt (numbered entry member)

/-- The ruleset at hand stands in the phase to which the calls made for it lead. -/
def AtHand (record : Record) (current steps : Nat) (table : DescriptorTable) :
    Option Ruleset → Prop
  | none => table = []
  | some ruleset => current < steps ∧ ∃ phase,
      ruleset.Stands [] phase table ∧
      Phase.fresh.Leads [] (record.callsOf current) phase ∧
      ruleset.rules = (record.callsOf current).countP Call.addsRule ∧
      record.At current phase

theorem AtHand.succ {record : Record} {current steps : Nat} {table : DescriptorTable}
    {ruleset : Option Ruleset} (atHand : AtHand record current steps table ruleset) :
    AtHand record current (steps + 1) table ruleset := by
  cases ruleset with
  | none => exact atHand
  | some ruleset => exact ⟨Nat.lt_succ_of_lt atHand.1, atHand.2⟩

/-- What the operations of a session preserve. -/
structure Sound (ledger : Ledger) : Prop where
  inOrder : ledger.record.InOrder
  numbered : Numbered ledger.record ledger.steps
  atHand : AtHand ledger.record ledger.current ledger.steps ledger.session.table
    ledger.session.ruleset

theorem sound_begin (host : Host) : Sound ⟨.begin host, 0, 0, []⟩ := by
  refine ⟨Record.inOrder_nil, ?_, rfl⟩
  intro entry member
  exact absurd member List.not_mem_nil

variable {ledger : Ledger}

/-- An operation without calls. -/
theorem Sound.idle (sound : ledger.Sound) (host : Host) (owner : Nat) :
    Sound ⟨⟨host, ledger.session.table, ledger.session.ruleset⟩, ledger.current,
      ledger.steps + 1, ledger.record ++ .of owner []⟩ := by
  rw [Record.of, List.map_nil, List.append_nil]
  exact ⟨sound.inOrder, sound.numbered.succ, sound.atHand.succ⟩

/-- An operation on the ruleset at hand that follows the protocol. -/
theorem Sound.serve (sound : ledger.Sound) {ruleset : Ruleset}
    (atHand : ledger.session.ruleset = some ruleset) {trail : Trail}
    (follows : ∀ phase, ruleset.Stands [] phase ledger.session.table →
      trail.Follows [] ruleset phase) :
    Sound ⟨⟨ledger.session.host, trail.table, some trail.ruleset⟩, ledger.current,
      ledger.steps + 1, ledger.record ++ .of ledger.current trail.calls⟩ := by
  obtain ⟨inOrder, numbered, served⟩ := sound
  rw [atHand] at served
  obtain ⟨known, phase, standing, leads, counted, reached⟩ := served
  obtain ⟨next, standing', leads', counted'⟩ := follows phase standing
  obtain ⟨inOrder', reached'⟩ := inOrder.leads reached leads'
  refine ⟨inOrder', (numbered.append known _).succ, Nat.lt_succ_of_lt known, next,
    standing', ?_, ?_, reached'⟩
  · rw [Record.callsOf_append, Record.callsOf_of_self]
    exact leads.append leads'
  · rw [Record.callsOf_append, Record.callsOf_of_self, List.countP_append, counted', counted]

/-- Give up the ruleset at hand, if there is one. -/
def relinquish (ruleset : Option Ruleset) : Action Unit :=
  match ruleset with
  | some old => old.discard
  | none => return ()

theorem Sound.relinquish (sound : ledger.Sound) :
    let run := (Ledger.relinquish ledger.session.ruleset).run ledger.session.host
      ledger.session.table
    run.table = [] ∧
      Record.InOrder (ledger.record ++ .of ledger.current run.calls) ∧
      Numbered (ledger.record ++ .of ledger.current run.calls) ledger.steps := by
  obtain ⟨inOrder, numbered, served⟩ := sound
  cases atHand : ledger.session.ruleset with
  | none =>
      rw [atHand] at served
      simp only [Ledger.relinquish, Action.run_pure, Record.of, List.map_nil, List.append_nil]
      exact ⟨served, inOrder, numbered⟩
  | some ruleset =>
      rw [atHand] at served
      obtain ⟨known, phase, standing, _, _, reached⟩ := served
      obtain ⟨closed, next, leads⟩ := standing.discard ledger.session.host
      exact ⟨closed, (inOrder.leads reached leads).1, numbered.append known _⟩

/-- An empty ruleset in place of the one at hand. -/
theorem Sound.renew (sound : ledger.Sound) (kernel : KernelVersion) :
    let run := (Ledger.relinquish ledger.session.ruleset).run ledger.session.host
      ledger.session.table
    Sound ⟨⟨ledger.session.host, run.table, some (.forKernel kernel)⟩, ledger.steps,
      ledger.steps + 1, ledger.record ++ .of ledger.current run.calls⟩ := by
  obtain ⟨closed, inOrder, numbered⟩ := sound.relinquish
  refine ⟨inOrder, numbered.succ, Nat.lt_succ_self _, .fresh, ?_, ?_, ?_, trivial⟩
  · rw [closed]
    exact .fresh rfl
  · rw [numbered.callsOf_bound]
    exact .rest .fresh
  · rw [numbered.callsOf_bound]
    rfl

/-- No ruleset in place of the one at hand. -/
theorem Sound.drop (sound : ledger.Sound) :
    let run := (Ledger.relinquish ledger.session.ruleset).run ledger.session.host
      ledger.session.table
    Sound ⟨⟨ledger.session.host, run.table, none⟩, ledger.current, ledger.steps + 1,
      ledger.record ++ .of ledger.current run.calls⟩ := by
  obtain ⟨closed, inOrder, numbered⟩ := sound.relinquish
  exact ⟨inOrder, numbered.succ, closed⟩

/-- Calls for another ruleset leave alone what is open already. -/
theorem at_beside {ruleset : Ruleset} {base table : DescriptorTable} {phase first last : Phase}
    (standing : ruleset.Stands base phase table) {record : Record} {owner : Nat}
    (reached : record.At owner phase) {calls : List Call}
    (leads : first.Leads table.descriptors calls last) (other : Nat) :
    Record.At (record ++ .of other calls) owner phase := by
  cases standing with
  | fresh state => exact trivial
  | committed descriptor state => exact trivial
  | @«open» descriptor state free =>
      have taken : descriptor ∈ (base.insert descriptor .ruleset).descriptors :=
        List.mem_cons_self
      have live : record.Live owner descriptor .handled := reached
      refine live.append ?_ ?_
      · rw [Record.map_call_of]
        exact leads.close_notMem taken
      · rw [Record.map_call_of]
        exact leads.restrict_notMem taken

/-- A confinement on a ruleset of its own beside the one at hand. -/
theorem Sound.beside (sound : ledger.Sound) (context : Context) :
    let run := context.confine.run ledger.session.host ledger.session.table
    Sound ⟨⟨ledger.session.host, run.table, ledger.session.ruleset⟩, ledger.current,
      ledger.steps + 1, ledger.record ++ .of ledger.steps run.calls⟩ := by
  obtain ⟨inOrder, numbered, served⟩ := sound
  obtain ⟨restored, last, leads⟩ :=
    context.follows_confine ledger.session.host ledger.session.table
  have unused : ledger.record.At ledger.steps .fresh := trivial
  obtain ⟨inOrder', _⟩ := inOrder.leads unused leads
  refine ⟨inOrder', numbered.succ.append (Nat.lt_succ_self _) _, ?_⟩
  rw [restored]
  cases atHand : ledger.session.ruleset with
  | none =>
      rw [atHand] at served
      exact served
  | some ruleset =>
      rw [atHand] at served
      obtain ⟨known, phase, standing, leads', counted, reached⟩ := served
      have same : Record.callsOf (ledger.record ++ .of ledger.steps
          (context.confine.run ledger.session.host ledger.session.table).calls) ledger.current =
            ledger.record.callsOf ledger.current := by
        have others := Record.callsOf_of_other (Nat.ne_of_gt known)
          (context.confine.run ledger.session.host ledger.session.table).calls
        rw [Record.callsOf_append, others, List.append_nil]
      rw [AtHand, same]
      exact ⟨Nat.lt_succ_of_lt known, phase, standing, leads', counted,
        at_beside standing reached leads ledger.steps⟩

/-- An operation that needs a ruleset at hand and follows the protocol with it. -/
theorem Sound.onRuleset (sound : ledger.Sound) {α : Type} (toAnswer : α → Session.Answer)
    (operation : Ruleset → Action (Except Failure α × Ruleset))
    (follows : ∀ ruleset phase, ruleset.Stands [] phase ledger.session.table →
      ((operation ruleset).run ledger.session.host ledger.session.table).trail.Follows []
        ruleset phase) :
    let run := (Session.onRuleset ledger.session.ruleset toAnswer operation).run
      ledger.session.host ledger.session.table
    Sound ⟨⟨ledger.session.host, run.table, run.value.2⟩, ledger.current, ledger.steps + 1,
      ledger.record ++ .of ledger.current run.calls⟩ := by
  cases atHand : ledger.session.ruleset with
  | none =>
      have idle := sound.idle ledger.session.host ledger.current
      rw [atHand] at idle
      exact idle
  | some ruleset =>
      have served := sound.serve atHand (follows ruleset)
      simpa [Session.onRuleset, Run.trail] using served

theorem run_replace (ruleset : Option Ruleset) (next : Ruleset) (host : Host)
    (table : DescriptorTable) :
    let run := (relinquish ruleset).run host table
    (Session.replace ruleset next).run host table =
      ⟨(.ok (.version next.kernel), some next), run.table, run.calls, run.events⟩ := by
  cases ruleset <;> simp [Session.replace, relinquish]

/-- Every operation keeps a ledger sound. -/
theorem Sound.perform (sound : ledger.Sound) (step : Session.Step) :
    (ledger.perform step).Sound := by
  cases step with
  | changeHost host => exact sound.idle host ledger.current
  | start =>
      cases version : ledger.session.host.kernelVersion with
      | error failure =>
          have idle := sound.idle ledger.session.host ledger.current
          simpa [Ledger.perform, Session.perform, Session.act, Ruleset.start, Action.run_bind,
            version, Except.map, Session.Step.renews, Session.Step.hostAfter, owner] using idle
      | ok kernel =>
          have renewed := sound.renew kernel
          simpa [Ledger.perform, Session.perform, Session.act, Ruleset.start, Action.run_bind,
            version, Except.map, Session.Step.renews, Session.Step.hostAfter, owner,
            run_replace] using renewed
  | startFor kernel =>
      have renewed := sound.renew kernel
      simpa [Ledger.perform, Session.perform, Session.act, Session.Step.renews,
        Session.Step.hostAfter, owner, run_replace] using renewed
  | discard =>
      have dropped := sound.drop
      cases atHand : ledger.session.ruleset <;>
        simpa [Ledger.perform, Session.perform, Session.act, Session.Step.renews,
          Session.Step.hostAfter, owner, atHand, Ledger.relinquish] using dropped
  | allow accessClass path =>
      refine sound.onRuleset .rule (Ruleset.allow accessClass path) ?_
      intro ruleset phase standing
      exact Ruleset.follows_allow ledger.session.host standing accessClass path
  | restrict =>
      refine sound.onRuleset .restriction Ruleset.restrict ?_
      intro ruleset phase standing
      exact Ruleset.follows_restrict ledger.session.host standing
  | baseline baseline =>
      refine sound.onRuleset (fun () => .done) baseline.apply ?_
      intro ruleset phase standing
      exact baseline.follows_apply ledger.session.host standing
  | queue queue =>
      refine sound.onRuleset .count _ ?_
      intro ruleset phase standing
      have followed := queue.follows_apply ledger.session.host standing
      simpa [Run.trail] using followed
  | confineWith context =>
      refine sound.onRuleset .restriction context.confineWith ?_
      intro ruleset phase standing
      exact context.follows_confineWith ledger.session.host standing
  | confine context =>
      have beside := sound.beside context
      simpa [Ledger.perform, Session.perform, Session.act, Action.run_bind,
        Session.Step.renews, Session.Step.hostAfter, owner] using beside
  | askSupported => exact sound.idle ledger.session.host ledger.current
  | askAbi => exact sound.idle ledger.session.host ledger.current
  | askSupport => exact sound.idle ledger.session.host ledger.current

/-- By induction on the operations, the ledger of every session is sound. -/
theorem sound_foldl (sound : ledger.Sound) (steps : List Session.Step) :
    (steps.foldl Ledger.perform ledger).Sound := by
  induction steps generalizing ledger with
  | nil => exact sound
  | cons step steps ih => exact ih (sound.perform step)

theorem sound_after (host : Host) (steps : List Session.Step) : (after host steps).Sound :=
  sound_foldl (sound_begin host) steps

theorem session_foldl (ledger : Ledger) (steps : List Session.Step) :
    (steps.foldl Ledger.perform ledger).session = ledger.session.after steps := by
  induction steps generalizing ledger with
  | nil => rfl
  | cons step steps ih => exact ih (ledger.perform step)

/-- The record of a session holds the calls of its operations in order. -/
theorem record_foldl (ledger : Ledger) (steps : List Session.Step) :
    ∃ added, (steps.foldl Ledger.perform ledger).record = ledger.record ++ added ∧
      added.map Entry.call =
        (ledger.session.performAll steps).flatMap Session.Outcome.calls := by
  induction steps generalizing ledger with
  | nil => exact ⟨[], (List.append_nil _).symm, rfl⟩
  | cons step steps ih =>
      obtain ⟨added, record, calls⟩ := ih (ledger.perform step)
      let first := Record.of (ledger.owner step) (ledger.session.perform step).calls
      refine ⟨first ++ added, ?_, ?_⟩
      · rw [List.foldl_cons, record, ← List.append_assoc]
        rfl
      · rw [List.map_append, Record.map_call_of, calls]
        rfl

end Ledger
end FileConfinement
