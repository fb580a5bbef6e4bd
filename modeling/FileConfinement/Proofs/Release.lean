import FileConfinement.Proofs.Discipline
import FileConfinement.Proofs.Ledger
import FileConfinement.Proofs.Operation
import FileConfinement.Proofs.ProgramRun

/-!
# Whole runs release what they open

Between the operations of a session nothing is open but the descriptor of the ruleset
at hand, and whatever was opened otherwise was closed once.  A confinement on a ruleset
of its own changes nothing about the session, and a program is executed with nothing
open.
-/

namespace FileConfinement

/-- What the calls of a run do with descriptors when one of them at most is held at the
end. -/
structure DescriptorDiscipline (calls : List Call) (held : Option Nat) : Prop where
  open_after : (DescriptorTable.replay [] calls).descriptors = held.toList
  /-- A call names descriptors that are open when it is made. -/
  named_open : ∀ before call after, calls = before ++ call :: after →
    ∀ descriptor ∈ call.named, descriptor ∈ (DescriptorTable.replay [] before).descriptors
  /-- A number is not given out while it is open. -/
  opened_free : ∀ before call after descriptor, calls = before ++ call :: after →
    call.opened? = some descriptor →
      descriptor ∉ (DescriptorTable.replay [] before).descriptors
  /-- What is closed twice is opened in between. -/
  closed_once : ∀ before descriptor between after,
    calls = before ++ .close descriptor :: (between ++ .close descriptor :: after) →
      ∃ call ∈ between, call.opened? = some descriptor
  /-- What is opened is closed before its number is given out again, unless it is held. -/
  closed_unless_held : ∀ before call after descriptor, calls = before ++ call :: after →
    call.opened? = some descriptor →
      held = some descriptor ∧ .close descriptor ∉ after ∨
        ∃ between rest, after = between ++ .close descriptor :: rest ∧
          .close descriptor ∉ between ∧ ∀ other ∈ between, other.opened? ≠ some descriptor
  parents_closed : ParentsClosed calls

theorem Disciplined.whole {calls : List Call} {table : DescriptorTable} {held : Option Nat}
    (disciplined : Disciplined [] calls table) (holds : table.descriptors = held.toList) :
    DescriptorDiscipline calls held := by
  obtain ⟨admitted, rfl, parents⟩ := disciplined
  refine ⟨holds, ?_, ?_, ?_, ?_, parents⟩
  · rintro before call after rfl
    exact admitted.admits.named_open
  · rintro before call after descriptor rfl
    exact admitted.admits.opened_free descriptor
  · rintro before descriptor between after rfl
    exact admitted.opened_between
  · rintro before call after descriptor rfl answered
    rcases admitted.closed_or_open answered with ⟨unclosed, isOpen⟩ | closed
    · rw [holds, Option.mem_toList] at isOpen
      exact .inl ⟨isOpen, unclosed⟩
    · exact .inr closed

namespace Ledger

variable {ledger : Ledger}

/-- What is open between two operations is the descriptor of the ruleset at hand. -/
theorem Sound.descriptors (sound : ledger.Sound) :
    ledger.session.table.descriptors =
      (ledger.session.ruleset.bind Ruleset.descriptor?).toList := by
  have served := sound.atHand
  cases atHand : ledger.session.ruleset with
  | none =>
      rw [atHand] at served
      rw [served]
      rfl
  | some ruleset =>
      rw [atHand] at served
      obtain ⟨_, phase, standing, _⟩ := served
      simpa [DescriptorTable.descriptors] using standing.descriptors

theorem Sound.disciplined_relinquish (sound : ledger.Sound) :
    let run := (Ledger.relinquish ledger.session.ruleset).run ledger.session.host
      ledger.session.table
    Disciplined ledger.session.table run.calls run.table := by
  intro run
  have closed : run.table = [] := sound.relinquish.1
  have served := sound.atHand
  rw [closed]
  cases atHand : ledger.session.ruleset with
  | none =>
      rw [atHand] at served
      simp only [run, atHand, Ledger.relinquish, Action.run_pure]
      rw [served]
      exact .nil []
  | some ruleset =>
      rw [atHand] at served
      obtain ⟨_, phase, standing, _⟩ := served
      simp only [run, atHand, Ledger.relinquish]
      exact standing.disciplined_discard ledger.session.host

theorem Sound.disciplined_operation (sound : ledger.Sound) {step : Session.Step}
    (operation : step.IsOperation) :
    Disciplined ledger.session.table (ledger.session.perform step).calls
      (ledger.session.perform step).session.table := by
  have served := sound.atHand
  cases atHand : ledger.session.ruleset with
  | none =>
      have idle := Disciplined.nil ledger.session.table
      cases operation <;>
        simpa [Session.perform, Session.act, Session.onRuleset, atHand] using idle
  | some ruleset =>
      rw [atHand] at served
      obtain ⟨_, phase, standing, _⟩ := served
      obtain ⟨next, _, follows⟩ := operation.follows standing ledger.session.host
      simp only [Session.perform, atHand]
      exact follows.disciplined standing

theorem Sound.disciplined_perform (sound : ledger.Sound) (step : Session.Step) :
    Disciplined ledger.session.table (ledger.session.perform step).calls
      (ledger.session.perform step).session.table := by
  have idle := Disciplined.nil ledger.session.table
  have relinquished := sound.disciplined_relinquish
  cases step with
  | changeHost host => exact idle
  | start =>
      cases version : ledger.session.host.kernelVersion with
      | error failure =>
          simpa [Session.perform, Session.act, Ruleset.start, version, Except.map] using idle
      | ok kernel =>
          simpa [Session.perform, Session.act, Ruleset.start, version, Except.map,
            run_replace] using relinquished
  | startFor kernel => simpa [Session.perform, Session.act, run_replace] using relinquished
  | discard =>
      cases atHand : ledger.session.ruleset <;>
        simpa [Session.perform, Session.act, atHand, Ledger.relinquish] using relinquished
  | allow accessClass path => exact sound.disciplined_operation (.allow accessClass path)
  | restrict => exact sound.disciplined_operation .restrict
  | baseline baseline => exact sound.disciplined_operation (.baseline baseline)
  | queue queue => exact sound.disciplined_operation (.queue queue)
  | confineWith context => exact sound.disciplined_operation (.confineWith context)
  | confine context =>
      have beside := context.disciplined_confine ledger.session.host ledger.session.table
      have restored := (context.follows_confine ledger.session.host ledger.session.table).1
      simpa [Session.perform, Session.act, restored] using beside
  | askSupported => exact idle
  | askAbi => exact idle
  | askSupport => exact idle

/-- By induction on the operations, what a session opens it closes, except what the
ruleset at hand holds. -/
theorem Sound.disciplined_callsOf (sound : ledger.Sound) (steps : List Session.Step) :
    Disciplined ledger.session.table (ledger.session.callsOf steps)
      (ledger.session.after steps).table := by
  induction steps generalizing ledger with
  | nil => exact .nil ledger.session.table
  | cons step steps ih =>
      rw [Session.callsOf_cons, Session.after_cons]
      exact (sound.disciplined_perform step).append (ih (sound.perform step))

end Ledger

namespace Command

variable {settings : Settings} {program : String} {arguments : List String} {host : Host}

/-- The calls before a program is executed are those of a confinement. -/
theorem calls_before_execute {table : DescriptorTable} {before after : List Call}
    {name : String} {given : List String} {reply : Reply Unit}
    (split : ((runProgram settings program arguments).run host table).calls =
      before ++ .execute name given reply :: after) :
    ∃ context : Context, before = (context.confine.run host table).calls := by
  cases loaded : settings.contextOn host with
  | error failure =>
      obtain ⟨_, calls⟩ := run_runProgram_unloaded loaded program arguments table
      simp [calls] at split
  | ok context =>
      have calls := calls_runProgram_loaded loaded program arguments table
      obtain ⟨_, course⟩ := context.confine_course host table
      have unexecuted := course.execute_notMem name given reply
      rw [split] at calls
      refine ⟨context, ?_⟩
      split at calls
      · rcases place_of_append_singleton calls.symm with ⟨_, same, _⟩ | ⟨rest, earlier⟩
        · exact same.symm
        · exact absurd (earlier ▸ List.mem_append_right _ List.mem_cons_self) unexecuted
      · rw [List.append_nil] at calls
        exact absurd (calls ▸ List.mem_append_right _ List.mem_cons_self) unexecuted

end Command

/-- After every operation of every session, what is open is the descriptor of the ruleset
at hand, the calls of the whole session keep the discipline, and a confinement on a
ruleset of its own changes nothing.  When a program is executed, nothing is open. -/
theorem descriptors_are_released (host : Host) (steps : List Session.Step) :
    let session := (Session.begin host).after steps
    let held := session.ruleset.bind Ruleset.descriptor?
    session.table.descriptors = held.toList ∧
      DescriptorDiscipline ((Session.begin host).callsOf steps) held ∧
      (∀ context, (session.perform (.confine context)).session = session) ∧
      ∀ words environment verbose settings program arguments,
        Command.Line.ofWords? words = some ⟨verbose, .run settings program arguments⟩ →
          ∃ transcript, Command.main? words environment host = some transcript ∧
            ∀ before name given reply after,
              transcript.calls = before ++ .execute name given reply :: after →
                DescriptorTable.replay [] before = [] ∧ DescriptorDiscipline before none := by
  have sound := Ledger.sound_after host steps
  have reached : (Ledger.after host steps).session = (Session.begin host).after steps :=
    Ledger.session_foldl _ steps
  have held := sound.descriptors
  rw [reached] at held
  have whole := (Ledger.sound_begin host).disciplined_callsOf steps
  refine ⟨held, whole.whole held, ?_, ?_⟩
  · intro context
    exact Session.session_perform_confine _ context
  · intro words environment verbose settings program arguments accepted
    refine ⟨Command.Line.perform ⟨verbose, .run settings program arguments⟩ environment host,
      ?_, ?_⟩
    · rw [Command.main?, accepted]
      rfl
    · intro before name given reply after split
      obtain ⟨context, rfl⟩ := Command.calls_before_execute split
      have confined := context.disciplined_confine host []
      exact ⟨confined.replayed, confined.whole rfl⟩

end FileConfinement
