import FileConfinement.Proofs.AttemptAnswers
import FileConfinement.Proofs.Grants

/-!
# Rules are added as a whole or not at all

A ruleset takes rules when it is open or the host can create it, and then it is the path alone that
decides whether a rule is added.  An attempt that fails says which step failed and leaves the rules
as they were.  All that is left of it is, at most, the ruleset that was created for it.
-/

namespace FileConfinement

theorem Host.accepts_iff {host : Host} {path : Path} :
    host.Accepts path ↔
      path.hasNul = false ∧ host.openError? path = none ∧ host.ruleError? path = none :=
  ⟨fun accepts => ⟨accepts.nonzero, accepts.opened, accepts.added⟩,
    fun ⟨nonzero, opened, added⟩ => ⟨nonzero, opened, added⟩⟩

namespace Attempt

variable {attempt : Attempt} {host : Host}

/-- The path is opened before its rule is added, and a zero byte is found before either. -/
theorem fault?_eq_some_iff {fault : IoFault} :
    attempt.fault? host = some fault ↔
      attempt.path.hasNul = true ∧ fault = .nulInPath ∨
        attempt.path.hasNul = false ∧ ∃ errno, fault = .code errno ∧
          (host.openError? attempt.path = some errno ∨
            host.openError? attempt.path = none ∧ host.ruleError? attempt.path = some errno) := by
  cases zero : attempt.path.hasNul with
  | true => simp [fault?, zero, eq_comm]
  | false =>
      cases opening : host.openError? attempt.path with
      | some errno => simp [fault?, zero, opening, eq_comm]
      | none =>
          cases adding : host.ruleError? attempt.path <;>
            simp [fault?, zero, opening, adding, eq_comm]

theorem answer_eq_ok_iff : attempt.answer host = .ok .added ↔ host.Accepts attempt.path := by
  rw [← fault?_eq_none_iff]
  cases fault : attempt.fault? host <;> simp [answer, fault]

theorem answer_eq_error_iff {failure : Failure} :
    attempt.answer host = .error failure ↔
      ∃ fault, failure = .insertion attempt.path fault ∧ attempt.fault? host = some fault := by
  cases fault : attempt.fault? host <;> simp [answer, fault, eq_comm]

end Attempt

namespace Ruleset

variable {ruleset : Ruleset} {host : Host} {attempt : Attempt}

/-- A ruleset that is open, or that the host can create. -/
def TakesRules (ruleset : Ruleset) (host : Host) : Prop :=
  ruleset.state ≠ .committed ∧ (ruleset.isOpen = true ∨ host.createError = none)

/-- A ruleset that takes no rules is in force or cannot be created. -/
theorem takesRules_cases (ruleset : Ruleset) (host : Host) :
    ruleset.state = .committed ∨
      (∃ errno, ruleset.state = .uninitialized ∧ host.createError = some errno) ∨
      ruleset.TakesRules host := by
  cases state : ruleset.state with
  | committed => exact .inl rfl
  | «open» descriptor =>
      exact .inr (.inr ⟨by simp [state], .inl (by simp [isOpen, descriptor?, state])⟩)
  | uninitialized =>
      cases creation : host.createError with
      | some errno => exact .inr (.inl ⟨errno, rfl, rfl⟩)
      | none => exact .inr (.inr ⟨by simp [state], .inr creation⟩)

theorem TakesRules.granted (takes : ruleset.TakesRules host)
    (fresh : ruleset.state = .uninitialized) : host.createError = none := by
  refine takes.2.resolve_left ?_
  simp [isOpen, descriptor?, fresh]

theorem not_takesRules_of_refused (fresh : ruleset.state = .uninitialized) {errno : Errno}
    (refused : host.createError = some errno) : ¬ ruleset.TakesRules host := by
  intro takes
  exact absurd (refused.symm.trans (takes.granted fresh)) (by simp)

theorem answerTo_of_takesRules (takes : ruleset.TakesRules host) (attempt : Attempt) :
    ruleset.answerTo host attempt = attempt.answer host := by
  cases state : ruleset.state with
  | committed => exact absurd state takes.1
  | «open» descriptor => simp [answerTo, state]
  | uninitialized => simp [answerTo, state, takes.granted state]

theorem answerTo_eq_ok_iff :
    ruleset.answerTo host attempt = .ok .added ↔
      ruleset.TakesRules host ∧ host.Accepts attempt.path := by
  rcases ruleset.takesRules_cases host with committed | ⟨errno, fresh, refused⟩ | takes
  · simp [answerTo_committed committed, TakesRules, committed]
  · simp [answerTo_refused fresh refused, not_takesRules_of_refused fresh refused]
  · rw [answerTo_of_takesRules takes, Attempt.answer_eq_ok_iff]
    exact (and_iff_right takes).symm

theorem answerTo_eq_alreadyEnforced_iff :
    ruleset.answerTo host attempt = .error .alreadyEnforced ↔ ruleset.state = .committed := by
  rcases ruleset.takesRules_cases host with committed | ⟨errno, fresh, refused⟩ | takes
  · simp [answerTo_committed committed, committed]
  · simp [answerTo_refused fresh refused, fresh]
  · simp [answerTo_of_takesRules takes, Attempt.answer_eq_error_iff, takes.1]

theorem answerTo_eq_creation_iff {errno : Errno} :
    ruleset.answerTo host attempt = .error (.ruleset (.creation errno)) ↔
      ruleset.state = .uninitialized ∧ host.createError = some errno := by
  rcases ruleset.takesRules_cases host with committed | ⟨errno, fresh, refused⟩ | takes
  · simp [answerTo_committed committed, committed]
  · simp [answerTo_refused fresh refused, fresh, refused]
  · rw [answerTo_of_takesRules takes, Attempt.answer_eq_error_iff]
    refine ⟨by simp, ?_⟩
    rintro ⟨fresh, refused⟩
    exact absurd takes (not_takesRules_of_refused fresh refused)

theorem answerTo_eq_insertion_iff {path : Path} {fault : IoFault} :
    ruleset.answerTo host attempt = .error (.insertion path fault) ↔
      ruleset.TakesRules host ∧ path = attempt.path ∧ attempt.fault? host = some fault := by
  rcases ruleset.takesRules_cases host with committed | ⟨errno, fresh, refused⟩ | takes
  · simp [answerTo_committed committed, TakesRules, committed]
  · simp [answerTo_refused fresh refused, not_takesRules_of_refused fresh refused]
  · simp [answerTo_of_takesRules takes, Attempt.answer_eq_error_iff, takes]

/-- The failures of an attempt are of three kinds, one for each step that can fail. -/
theorem failure_of_answerTo {failure : Failure}
    (failed : ruleset.answerTo host attempt = .error failure) :
    failure = .alreadyEnforced ∨ (∃ errno, failure = .ruleset (.creation errno)) ∨
      ∃ fault, failure = .insertion attempt.path fault := by
  rcases ruleset.takesRules_cases host with committed | ⟨errno, fresh, refused⟩ | takes
  · rw [answerTo_committed committed] at failed
    exact .inl (Except.error.inj failed).symm
  · rw [answerTo_refused fresh refused] at failed
    exact .inr (.inl ⟨errno, (Except.error.inj failed).symm⟩)
  · rw [answerTo_of_takesRules takes, Attempt.answer_eq_error_iff] at failed
    obtain ⟨fault, rfl, _⟩ := failed
    exact .inr (.inr ⟨fault, rfl⟩)

namespace Attempted

variable {table : DescriptorTable} {run : Run (Except Failure RuleStatus × Ruleset)}

theorem rules_eq_of_added (attempted : ruleset.Attempted attempt host table run)
    (added : run.value.1 = .ok .added) : run.value.2.rules = ruleset.rules + 1 := by
  rw [attempted.rules_eq, attempted.countP_eq, if_pos added]

/-- An attempt that fails leaves the ruleset as it was, or created for the attempt. -/
theorem ruleset_of_failed (attempted : ruleset.Attempted attempt host table run)
    {failure : Failure} (failed : run.value.1 = .error failure) :
    (run.value.2 = ruleset ∧ run.table = table) ∨
      ruleset.state = .uninitialized ∧ host.createError = none ∧
        run.value.2 = ruleset.opened table.lowestFree ∧
        run.table = table.insert table.lowestFree .ruleset := by
  have unadded : attempt.answer host = .error failure → attempt.added host = 0 := by
    intro answered
    obtain ⟨fault, _, faulty⟩ := Attempt.answer_eq_error_iff.mp answered
    simp [Attempt.added, faulty]
  cases attempted with
  | committed state => exact .inl ⟨rfl, rfl⟩
  | «open» state =>
      refine .inl ⟨?_, rfl⟩
      rw [unadded failed, grown_zero]
  | refused state refused => exact .inl ⟨rfl, rfl⟩
  | created state granted =>
      refine .inr ⟨state, granted, ?_, rfl⟩
      rw [unadded failed, grown_zero]

theorem isOpen_of_added (attempted : ruleset.Attempted attempt host table run)
    (added : run.value.1 = .ok .added) : run.value.2.isOpen = true := by
  cases attempted with
  | committed state => exact absurd added (by simp)
  | «open» state => simp [isOpen, descriptor?, state]
  | refused state refused => exact absurd added (by simp)
  | created state granted => rfl

/-- An open ruleset keeps its descriptor. -/
theorem descriptor_eq (attempted : ruleset.Attempted attempt host table run) {descriptor : Nat}
    (held : ruleset.descriptor? = some descriptor) :
    run.value.2.descriptor? = some descriptor := by
  cases attempted with
  | committed state => exact held
  | «open» state => exact held
  | refused state refused => exact held
  | created state granted => simp [descriptor?, state] at held

theorem calls_of_committed (attempted : ruleset.Attempted attempt host table run)
    (committed : ruleset.state = .committed) : run.calls = [] := by
  cases attempted with
  | committed state => rfl
  | «open» state => simp [state] at committed
  | refused state refused => simp [state] at committed
  | created state granted => simp [state] at committed

/-- As long as the ruleset is not created, every attempt begins with its creation. -/
theorem creates_first (attempted : ruleset.Attempted attempt host table run)
    (fresh : ruleset.state = .uninitialized) :
    ∃ reply later, run.calls = .createRuleset .handled reply :: later := by
  cases attempted with
  | committed state => simp [state] at fresh
  | «open» state => simp [state] at fresh
  | refused state refused => exact ⟨_, _, rfl⟩
  | created state granted => exact ⟨_, _, rfl⟩

end Attempted

/-- On a kernel that is recent enough the request for a rule adds one rule, or it says which step
failed and adds none.  An attempt that fails leaves the ruleset as it was, except that it may have
created it, and a creation that was refused is tried again by the next attempt. -/
theorem rule_insertion_is_atomic (host : Host) (table : DescriptorTable) {ruleset : Ruleset}
    (supported : ruleset.isSupported = true) (accessClass : AccessClass) (path : Path) :
    let run := (ruleset.allow accessClass path).run host table
    let answer := run.value.1
    let next := run.value.2
    (answer = .ok .added ↔
      (ruleset.state ≠ .committed ∧ (ruleset.isOpen = true ∨ host.createError = none)) ∧
        path.hasNul = false ∧ host.openError? path = none ∧ host.ruleError? path = none) ∧
    (answer = .ok .added → next.rules = ruleset.rules + 1 ∧ next.isOpen = true) ∧
    answer ≠ .ok .unsupported ∧
    (answer = .error .alreadyEnforced ↔ ruleset.state = .committed) ∧
    (ruleset.state = .committed → run.calls = []) ∧
    (∀ errno, answer = .error (.ruleset (.creation errno)) ↔
      ruleset.state = .uninitialized ∧ host.createError = some errno) ∧
    (∀ errno, answer = .error (.ruleset (.creation errno)) →
      next = ruleset ∧ ∀ other table' accessClass' path', ∃ reply later,
        ((next.allow accessClass' path').run other table').calls =
          .createRuleset .handled reply :: later) ∧
    (∀ named fault, answer = .error (.insertion named fault) ↔
      (ruleset.state ≠ .committed ∧ (ruleset.isOpen = true ∨ host.createError = none)) ∧
        named = path ∧
        (path.hasNul = true ∧ fault = .nulInPath ∨
          path.hasNul = false ∧ ∃ errno, fault = .code errno ∧
            (host.openError? path = some errno ∨
              host.openError? path = none ∧ host.ruleError? path = some errno))) ∧
    (∀ descriptor, ruleset.descriptor? = some descriptor →
      next.descriptor? = some descriptor) ∧
    ∀ failure, answer = .error failure →
      (failure = .alreadyEnforced ∨ (∃ errno, failure = .ruleset (.creation errno)) ∨
        ∃ fault, failure = .insertion path fault) ∧
      next.rules = ruleset.rules ∧
      (next = ruleset ∧ run.table = table ∨
        ruleset.state = .uninitialized ∧ host.createError = none ∧
          (∃ fault, failure = .insertion path fault) ∧
          next = ruleset.opened table.lowestFree ∧
          run.table = table.insert table.lowestFree .ruleset) := by
  let attempt : Attempt := ⟨accessClass.mask, path⟩
  intro run answer next
  have attempted : ruleset.Attempted attempt host table run :=
    attempted_allowMask host supported attempt table
  have answered : answer = ruleset.answerTo host attempt := attempted.answer_eq
  refine ⟨?_, ?_, ?_, ?_, attempted.calls_of_committed, ?_, ?_, ?_, ?_, ?_⟩
  · rw [answered, answerTo_eq_ok_iff, Host.accepts_iff]
    rfl
  · intro added
    exact ⟨attempted.rules_eq_of_added added, attempted.isOpen_of_added added⟩
  · rw [answered]
    rcases ruleset.answerTo_cases host attempt with added | ⟨failure, failed⟩
    · simp [added]
    · simp [failed]
  · rw [answered]
    exact answerTo_eq_alreadyEnforced_iff
  · intro errno
    rw [answered]
    exact answerTo_eq_creation_iff
  · intro errno failed
    obtain ⟨fresh, refused⟩ := answerTo_eq_creation_iff.mp (answered ▸ failed)
    have kept : next = ruleset := by
      rcases attempted.ruleset_of_failed failed with ⟨same, _⟩ | ⟨_, granted, _⟩
      · exact same
      · simp [refused] at granted
    refine ⟨kept, ?_⟩
    intro other table' accessClass' path'
    rw [kept]
    exact (attempted_allowMask other supported ⟨accessClass'.mask, path'⟩ table').creates_first
      fresh
  · intro named fault
    rw [answered, answerTo_eq_insertion_iff, Attempt.fault?_eq_some_iff]
    rfl
  · intro descriptor held
    exact attempted.descriptor_eq held
  · intro failure failed
    have failedTo : ruleset.answerTo host attempt = .error failure := answered ▸ failed
    have kinds := failure_of_answerTo failedTo
    rcases attempted.ruleset_of_failed failed with ⟨same, closed⟩ | ⟨fresh, granted, made, held⟩
    · exact ⟨kinds, congrArg Ruleset.rules same, .inl ⟨same, closed⟩⟩
    · -- A ruleset created by the attempt leaves only the path to fail.
      have inserting : ∃ fault, failure = .insertion path fault := by
        rcases kinds with rfl | ⟨errno, rfl⟩ | inserting
        · simp [answerTo_eq_alreadyEnforced_iff.mp failedTo] at fresh
        · simp [(answerTo_eq_creation_iff.mp failedTo).2] at granted
        · exact inserting
      have uncounted : next.rules = ruleset.rules := by
        rw [show next = ruleset.opened table.lowestFree from made]
        rfl
      exact ⟨kinds, uncounted, .inr ⟨fresh, granted, inserting, made, held⟩⟩

/-- A path that is there and cannot be opened: the attempt leaves the ruleset created and empty. -/
theorem rule_insertion_is_atomic_on_locked_path :
    let path := Path.ofString "/locked"
    let host := { Host.willing [] with files := [⟨path, none, some ⟨13⟩, none, none⟩] }
    let ruleset := Ruleset.forKernel ⟨6, 5⟩
    let run := (ruleset.allow .read path).run host []
    ruleset.isSupported = true ∧
      run.value.1 = .error (.insertion path (.code ⟨13⟩)) ∧
      run.value.2.rules = 0 ∧
      run.value.2 = ⟨⟨6, 5⟩, .open 100, 0⟩ ∧
      run.table = [(100, .ruleset)] := by
  intro path host ruleset run
  have supported : ruleset.isSupported = true := by decide
  obtain ⟨_, _, _, _, _, _, _, inserting, _, failing⟩ :=
    rule_insertion_is_atomic host [] supported .read path
  have failed : run.value.1 = .error (.insertion path (.code ⟨13⟩)) := by
    refine (inserting path (.code ⟨13⟩)).mpr ⟨⟨by decide, .inr rfl⟩, rfl, .inr ?_⟩
    exact ⟨by decide, ⟨13⟩, rfl, .inl (by decide)⟩
  obtain ⟨_, uncounted, left⟩ := failing _ failed
  rcases left with ⟨same, _⟩ | ⟨_, _, _, made, held⟩
  · exact absurd same (by decide)
  · exact ⟨supported, failed, uncounted, made, held⟩

end Ruleset
end FileConfinement
