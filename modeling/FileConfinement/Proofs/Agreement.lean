import FileConfinement.Proofs.Ledger

/-!
# Rulesets agree with the calls made for them

The state of a ruleset, its descriptor and its number of rules can be read off the
calls that were made for it since it was taken up.  This holds at every point of every
session, and every rule and restriction of the session is in its place.
-/

namespace FileConfinement

namespace Call

theorem mem_filterMap_created {calls : List Call} {descriptor : Nat} :
    descriptor ∈ calls.filterMap created? ↔
      ∃ handled, .createRuleset handled (.granted descriptor) ∈ calls := by
  rw [List.mem_filterMap]
  constructor
  · rintro ⟨call, member, created⟩
    cases call with
    | createRuleset handled reply =>
        cases reply with
        | granted other =>
            obtain rfl : other = descriptor := Option.some.inj created
            exact ⟨handled, member⟩
        | refused errno => simp [created?] at created
    | _ => simp [created?] at created
  · rintro ⟨handled, member⟩
    exact ⟨_, member, rfl⟩

theorem mem_filterMap_enforced {calls : List Call} {descriptor : Nat} :
    descriptor ∈ calls.filterMap enforced? ↔ .restrict descriptor (.granted ()) ∈ calls := by
  rw [List.mem_filterMap]
  constructor
  · rintro ⟨call, member, enforced⟩
    cases call with
    | restrict other reply =>
        cases reply with
        | granted value =>
            obtain rfl : other = descriptor := Option.some.inj enforced
            exact member
        | refused errno => simp [enforced?] at enforced
    | _ => simp [enforced?] at enforced
  · intro member
    exact ⟨_, member, rfl⟩

end Call

/-- A ruleset is what some calls have made of an empty one. -/
structure Ruleset.Agrees (ruleset : Ruleset) (calls : List Call) : Prop where
  /-- A creation that succeeds is the last one. -/
  created_last : ∀ before after handled descriptor,
    calls = before ++ .createRuleset handled (.granted descriptor) :: after →
      ∀ again reply, .createRuleset again reply ∉ after
  open_iff : ∀ descriptor, ruleset.state = .open descriptor ↔
    (∃ handled, .createRuleset handled (.granted descriptor) ∈ calls) ∧
      .restrict descriptor (.granted ()) ∉ calls
  committed_iff : ruleset.state = .committed ↔
    ∃ descriptor handled, .createRuleset handled (.granted descriptor) ∈ calls ∧
      .restrict descriptor (.granted ()) ∈ calls
  uninitialized_iff : ruleset.state = .uninitialized ↔
    ∀ handled descriptor, .createRuleset handled (.granted descriptor) ∉ calls
  rules_eq : ruleset.rules = calls.countP Call.addsRule
  descriptor_iff : ∀ descriptor,
    ruleset.descriptor? = some descriptor ↔ ruleset.state = .open descriptor

namespace Ruleset

variable {base table : DescriptorTable} {ruleset : Ruleset} {phase : Phase}
  {taken : List Nat} {calls : List Call}

theorem descriptor?_eq_some_iff (ruleset : Ruleset) (descriptor : Nat) :
    ruleset.descriptor? = some descriptor ↔ ruleset.state = .open descriptor := by
  cases state : ruleset.state <;> simp [descriptor?, state]

/-- What the phase of a ruleset says about its state in terms of what was created and
put in force. -/
theorem Stands.state_iff (standing : ruleset.Stands base phase table) :
    (∀ descriptor, ruleset.state = .open descriptor ↔
      descriptor ∈ phase.created ∧ descriptor ∉ phase.enforced) ∧
    (ruleset.state = .committed ↔
      ∃ descriptor, descriptor ∈ phase.created ∧ descriptor ∈ phase.enforced) ∧
    (ruleset.state = .uninitialized ↔ ∀ descriptor, descriptor ∉ phase.created) := by
  cases standing with
  | fresh state => simp [state, Phase.created, Phase.enforced]
  | @«open» descriptor state free =>
      simp [state, Phase.created, Phase.enforced, eq_comm]
  | committed descriptor state => simp [state, Phase.created, Phase.enforced]

theorem created_last (leads : Phase.fresh.Leads taken calls phase) {before after : List Call}
    {handled : AccessMask} {descriptor : Nat}
    (split : calls = before ++ .createRuleset handled (.granted descriptor) :: after)
    (again : AccessMask) (reply : Reply Nat) : .createRuleset again reply ∉ after := by
  rw [split] at leads
  obtain ⟨next, _, leads'⟩ := leads.split
  cases leads' with
  | next step rest =>
      cases step with
      | created free => exact rest.no_creation (List.cons_ne_nil _ _) again reply

/-- A ruleset agrees with calls that follow the protocol. -/
theorem Stands.agrees (standing : ruleset.Stands base phase table)
    (leads : Phase.fresh.Leads taken calls phase)
    (counted : ruleset.rules = calls.countP Call.addsRule) : ruleset.Agrees calls := by
  have created : phase.created = calls.filterMap Call.created? := leads.created_eq
  have enforced : phase.enforced = calls.filterMap Call.enforced? := leads.enforced_eq
  obtain ⟨isOpen, isCommitted, isFresh⟩ := standing.state_iff
  simp only [created, enforced, Call.mem_filterMap_created, Call.mem_filterMap_enforced]
    at isOpen isCommitted isFresh
  refine ⟨?_, isOpen, ?_, ?_, counted, ruleset.descriptor?_eq_some_iff⟩
  · intro before after handled descriptor split
    exact created_last leads split
  · simpa only [exists_and_right] using isCommitted
  · rw [isFresh]
    simp only [not_exists]
    exact forall_comm

end Ruleset

namespace Ledger

theorem after_append (host : Host) (steps more : List Session.Step) :
    after host (steps ++ more) = more.foldl perform (after host steps) :=
  List.foldl_append

theorem Sound.agrees {ledger : Ledger} (sound : ledger.Sound) {ruleset : Ruleset}
    (atHand : ledger.session.ruleset = some ruleset) :
    ruleset.Agrees (ledger.record.callsOf ledger.current) := by
  have served := sound.atHand
  rw [atHand] at served
  obtain ⟨_, phase, standing, leads, counted, _⟩ := served
  exact standing.agrees leads counted

/-- A ruleset keeps its descriptor as long as it is open: it was created on it, and
nothing is created after that. -/
theorem descriptor_unique {first later : List Call} {ruleset next : Ruleset}
    (agrees : ruleset.Agrees first) (agrees' : next.Agrees (first ++ later))
    {descriptor other : Nat} (held : ruleset.descriptor? = some descriptor)
    (held' : next.descriptor? = some other) : other = descriptor := by
  have isOpen := (agrees.descriptor_iff descriptor).mp held
  have isOpen' := (agrees'.descriptor_iff other).mp held'
  obtain ⟨⟨handled, created⟩, _⟩ := (agrees.open_iff descriptor).mp isOpen
  obtain ⟨⟨again, created'⟩, _⟩ := (agrees'.open_iff other).mp isOpen'
  obtain ⟨before, after, split⟩ := List.append_of_mem created
  have split' : first ++ later =
      before ++ .createRuleset handled (.granted descriptor) :: (after ++ later) := by
    rw [split, List.append_assoc, List.cons_append]
  have last := agrees'.created_last before (after ++ later) handled descriptor split' again
    (.granted other)
  rw [split', List.mem_append, List.mem_cons] at created'
  rcases created' with earlier | same | behind
  · -- The earlier creation would have been followed by this one.
    obtain ⟨front, middle, split''⟩ := List.append_of_mem earlier
    refine absurd ?_ (agrees'.created_last front
      (middle ++ .createRuleset handled (.granted descriptor) :: (after ++ later)) again other ?_
      handled (.granted descriptor))
    · exact List.mem_append_right middle List.mem_cons_self
    · rw [split', split'', List.append_assoc, List.cons_append]
  · simp only [Call.createRuleset.injEq, Reply.granted.injEq] at same
    exact same.2
  · exact absurd behind last

/-- At every point of every session the ruleset at hand agrees with the calls that were
made for it, its descriptor never changes, and every rule and every restriction is in
its place: it names a live ruleset and stands right behind the call that it depends
on. -/
theorem ruleset_agrees_with_record (host : Host) (steps : List Session.Step) :
    let ledger := after host steps
    ledger.session = (Session.begin host).after steps ∧
      ledger.record.map Entry.call =
        ((Session.begin host).performAll steps).flatMap Session.Outcome.calls ∧
      (∀ ruleset, ledger.session.ruleset = some ruleset →
        ruleset.Agrees (ledger.record.callsOf ledger.current)) ∧
      (∀ more ruleset next descriptor other,
        (after host (steps ++ more)).current = ledger.current →
        ledger.session.ruleset = some ruleset →
        (after host (steps ++ more)).session.ruleset = some next →
        ruleset.descriptor? = some descriptor → next.descriptor? = some other →
          other = descriptor) ∧
      (∀ before owner descriptor mask parent reply after,
        ledger.record = before ++ ⟨owner, .addRule descriptor mask parent reply⟩ :: after →
          Record.RuleInPlace before owner descriptor mask parent) ∧
      (∀ before owner descriptor reply after,
        ledger.record = before ++ ⟨owner, .restrict descriptor reply⟩ :: after →
          Record.RestrictionInPlace before owner descriptor) := by
  intro ledger
  have sound : ledger.Sound := sound_after host steps
  obtain ⟨added, record, calls⟩ := record_foldl ⟨.begin host, 0, 0, []⟩ steps
  refine ⟨session_foldl _ steps, ?_, ?_, ?_, ?_, ?_⟩
  · rw [← calls]
    exact congrArg (List.map Entry.call) record
  · intro ruleset atHand
    exact sound.agrees atHand
  · intro more ruleset next descriptor other same atHand atHand' held held'
    have agrees' := (sound_after host (steps ++ more)).agrees atHand'
    obtain ⟨added, record, _⟩ := record_foldl ledger more
    rw [same, after_append, record, Record.callsOf_append] at agrees'
    exact descriptor_unique (sound.agrees atHand) agrees' held held'
  · intro before owner descriptor mask parent reply after split
    exact sound.inOrder before ⟨owner, .addRule descriptor mask parent reply⟩ after split
  · intro before owner descriptor reply after split
    exact sound.inOrder before ⟨owner, .restrict descriptor reply⟩ after split

example :
    let root := Path.ofString "/"
    (after (.willing [root]) [.startFor ⟨6, 5⟩, .allow .read root, .restrict]).record =
      [⟨0, .createRuleset .handled (.granted 100)⟩, ⟨0, .openPath root (.granted 101)⟩,
        ⟨0, .addRule 100 AccessClass.read.mask 101 (.granted ())⟩, ⟨0, .close 101⟩,
        ⟨0, .giveUpPrivileges (.granted ())⟩, ⟨0, .restrict 100 (.granted ())⟩,
        ⟨0, .close 100⟩] := by
  decide

end Ledger
end FileConfinement
