import FileConfinement.Proofs.Standing

/-!
# Answers to attempts

An attempt at a ruleset goes one of four ways, and its answer is decided by the host and by how far
the ruleset had come before the first attempt: attempts that fail take nothing away from the others.
Every answer that is no failure stands for one rule that the kernel accepted.
-/

namespace FileConfinement

/-- The failure that an answer tells of. -/
def Failure.of? {α : Type} : Except Failure α → Option Failure
  | .error failure => some failure
  | .ok _ => none

/-- The failures among some answers, in order. -/
def failuresOf (answers : List (Except Failure RuleStatus)) : List Failure :=
  answers.filterMap Failure.of?

/-- The events of a level, in order. -/
def Event.atLevel (level : Level) (events : List Event) : List Event :=
  events.filter fun event => event.level = level

@[simp] theorem Event.atLevel_append (level : Level) (first second : List Event) :
    atLevel level (first ++ second) = atLevel level first ++ atLevel level second :=
  List.filter_append ..

/-- Whether a call asks for a new ruleset. -/
def Call.creates : Call → Bool
  | createRuleset _ _ => true
  | _ => false

theorem Attempt.creates_of_mem_block {attempt : Attempt} {host : Host} {ruleset parent : Nat}
    {call : Call} (member : call ∈ attempt.block host ruleset parent) :
    (!call.creates) = true := by
  rw [block] at member
  split at member
  · exact absurd member List.not_mem_nil
  · split at member <;> simp only [List.mem_cons, List.not_mem_nil, or_false] at member
    · rw [member]
      rfl
    · rcases member with rfl | rfl | rfl <;> rfl

theorem Event.atLevel_eq_nil {level : Level} {events : List Event}
    (other : ∀ event ∈ events, event.level ≠ level) : atLevel level events = [] := by
  apply List.filter_eq_nil_iff.mpr
  intro event member
  simpa using other event member

theorem Failure.of?_eq_some_iff {α : Type} {answer : Except Failure α} {failure : Failure} :
    of? answer = some failure ↔ answer = .error failure := by
  cases answer <;> simp [of?]

theorem Failure.of?_eq_none_iff {α : Type} {answer : Except Failure α} :
    of? answer = none ↔ ∃ value, answer = .ok value := by
  cases answer <;> simp [of?]

/-- The first failure is the earliest one: before it everything succeeded. -/
theorem head?_failuresOf_iff {answers : List (Except Failure RuleStatus)} {failure : Failure} :
    (failuresOf answers).head? = some failure ↔
      ∃ before after, answers = before ++ .error failure :: after ∧
        ∀ answer ∈ before, ∃ status, answer = .ok status := by
  rw [failuresOf, List.head?_filterMap, List.findSome?_eq_some_iff]
  simp only [Failure.of?_eq_some_iff, Failure.of?_eq_none_iff]
  constructor
  · rintro ⟨before, _, after, split, rfl, succeeded⟩
    exact ⟨before, after, split, succeeded⟩
  · rintro ⟨before, after, split, succeeded⟩
    exact ⟨before, _, after, split, rfl, succeeded⟩

theorem failuresOf_cons (answer : Except Failure RuleStatus)
    (answers : List (Except Failure RuleStatus)) :
    failuresOf (answer :: answers) = failuresOf [answer] ++ failuresOf answers :=
  List.filterMap_append (l := [answer])

theorem failuresOf_eq_nil_iff {answers : List (Except Failure RuleStatus)} :
    failuresOf answers = [] ↔ ∀ answer ∈ answers, ∃ status, answer = .ok status := by
  simp only [failuresOf, List.filterMap_eq_nil_iff, Failure.of?_eq_none_iff]

namespace Ruleset

/-- The ways in which an attempt at a ruleset goes on a kernel that is recent enough. -/
inductive Attempted (attempt : Attempt) (host : Host) (table : DescriptorTable)
    (ruleset : Ruleset) : Run (Except Failure RuleStatus × Ruleset) → Prop where
  | committed (state : ruleset.state = .committed) :
      Attempted attempt host table ruleset ⟨(.error .alreadyEnforced, ruleset), table, [], []⟩
  | open {descriptor : Nat} (state : ruleset.state = .open descriptor) :
      Attempted attempt host table ruleset
        ⟨(attempt.answer host, ruleset.grown (attempt.added host)), table,
          attempt.block host descriptor table.lowestFree, attempt.events host⟩
  | refused (state : ruleset.state = .uninitialized) {errno : Errno}
      (refused : host.createError = some errno) :
      Attempted attempt host table ruleset
        ⟨(.error (.ruleset (.creation errno)), ruleset), table,
          [.createRuleset .handled (.refused errno)], []⟩
  | created (state : ruleset.state = .uninitialized) (granted : host.createError = none) :
      Attempted attempt host table ruleset
        ⟨(attempt.answer host, (ruleset.opened table.lowestFree).grown (attempt.added host)),
          table.insert table.lowestFree .ruleset,
          .createRuleset .handled (.granted table.lowestFree) ::
            attempt.block host table.lowestFree
              (table.insert table.lowestFree .ruleset).lowestFree,
          .rulesetCreated table.lowestFree :: attempt.events host⟩

variable {host : Host} {ruleset : Ruleset}

theorem attempted_allowMask (host : Host) (supported : ruleset.isSupported = true)
    (attempt : Attempt) (table : DescriptorTable) :
    ruleset.Attempted attempt host table
      ((ruleset.allowMask attempt.mask attempt.path).run host table) := by
  cases state : ruleset.state with
  | committed =>
      rw [run_allowMask_committed supported attempt state]
      exact .committed state
  | «open» descriptor =>
      rw [run_allowMask_open supported attempt state]
      exact .open state
  | uninitialized =>
      cases creation : host.createError with
      | some errno =>
          rw [run_allowMask_refused supported attempt state creation]
          exact .refused state creation
      | none =>
          rw [run_allowMask_created supported attempt state creation]
          exact .created state creation

/-- The answer to an attempt at a ruleset, before or behind other attempts. -/
def answerTo (ruleset : Ruleset) (host : Host) (attempt : Attempt) : Except Failure RuleStatus :=
  match ruleset.state, host.createError with
  | .committed, _ => .error .alreadyEnforced
  | .uninitialized, some errno => .error (.ruleset (.creation errno))
  | .uninitialized, none | .open _, _ => attempt.answer host

theorem answerTo_committed (committed : ruleset.state = .committed) (host : Host)
    (attempt : Attempt) : ruleset.answerTo host attempt = .error .alreadyEnforced := by
  rw [answerTo, committed]

theorem answerTo_refused (fresh : ruleset.state = .uninitialized) {errno : Errno}
    (refused : host.createError = some errno) (attempt : Attempt) :
    ruleset.answerTo host attempt = .error (.ruleset (.creation errno)) := by
  rw [answerTo, fresh, refused]

/-- There is no third answer. -/
theorem answerTo_cases (ruleset : Ruleset) (host : Host) (attempt : Attempt) :
    ruleset.answerTo host attempt = .ok .added ∨
      ∃ failure, ruleset.answerTo host attempt = .error failure := by
  have answered : attempt.answer host = .ok .added ∨
      ∃ failure, attempt.answer host = .error failure := by
    cases fault : attempt.fault? host <;> simp [Attempt.answer, fault]
  rw [answerTo]
  split
  · exact .inr ⟨_, rfl⟩
  · exact .inr ⟨_, rfl⟩
  · exact answered
  · exact answered

/-- Where there is nothing no rule is added. -/
theorem answerTo_of_missing (ruleset : Ruleset) {attempt : Attempt}
    (missing : attempt.path.hasNul = true ∨ host.file? attempt.path = none) :
    ∃ failure, ruleset.answerTo host attempt = .error failure := by
  have faulty : ∃ fault, attempt.fault? host = some fault := by
    rw [Attempt.fault?]
    split
    · exact ⟨_, rfl⟩
    · next nonzero =>
        have unopened : host.openError? attempt.path = some .notFound := by
          simp [Host.openError?, missing.resolve_left nonzero]
        exact ⟨.code .notFound, by simp [unopened]⟩
  obtain ⟨fault, faulty⟩ := faulty
  have answered : attempt.answer host = .error (.insertion attempt.path fault) := by
    simp [Attempt.answer, faulty]
  rw [answerTo]
  split
  · exact ⟨_, rfl⟩
  · exact ⟨_, rfl⟩
  · exact ⟨_, answered⟩
  · exact ⟨_, answered⟩

namespace Attempted

variable {attempt : Attempt} {table : DescriptorTable}
  {run : Run (Except Failure RuleStatus × Ruleset)}

theorem answer_eq (attempted : ruleset.Attempted attempt host table run) :
    run.value.1 = ruleset.answerTo host attempt := by
  cases attempted with
  | committed state => simp [answerTo, state]
  | «open» state => simp [answerTo, state]
  | refused state refused => simp [answerTo, state, refused]
  | created state granted => simp [answerTo, state, granted]

/-- An attempt leaves the answers to other attempts as they were. -/
theorem answerTo_eq (attempted : ruleset.Attempted attempt host table run) :
    run.value.2.answerTo host = ruleset.answerTo host := by
  funext other
  cases attempted with
  | committed state => rfl
  | «open» state => rfl
  | refused state refused => rfl
  | created state granted => simp [answerTo, state, granted, opened]

theorem rules_eq (attempted : ruleset.Attempted attempt host table run) :
    run.value.2.rules = ruleset.rules + run.calls.countP Call.addsRule := by
  cases attempted with
  | committed state => rfl
  | «open» state => exact congrArg (ruleset.rules + ·) Attempt.countP_block.symm
  | refused state refused => rfl
  | created state granted => exact congrArg (ruleset.rules + ·) Attempt.countP_block.symm

/-- The kernel accepts a rule exactly if the answer says so. -/
theorem countP_eq (attempted : ruleset.Attempted attempt host table run) :
    run.calls.countP Call.addsRule = if run.value.1 = .ok .added then 1 else 0 := by
  have accepted : attempt.added host = if attempt.answer host = .ok .added then 1 else 0 := by
    cases fault : attempt.fault? host <;> simp [Attempt.added, Attempt.answer, fault]
  cases attempted with
  | committed state => rfl
  | «open» state => exact Attempt.countP_block.trans accepted
  | refused state refused => rfl
  | created state granted => exact Attempt.countP_block.trans accepted

theorem level_eq (attempted : ruleset.Attempted attempt host table run) :
    ∀ event ∈ run.events, event.level = .debug := by
  have quiet : ∀ event ∈ attempt.events host, event.level = .debug := by
    intro event member
    rw [Attempt.events] at member
    split at member
    · rw [List.mem_singleton.mp member]
      rfl
    · exact absurd member List.not_mem_nil
  cases attempted with
  | committed state => simp
  | «open» state => exact quiet
  | refused state refused => simp
  | created state granted => exact List.forall_mem_cons.mpr ⟨rfl, quiet⟩

/-- An attempt opens no path but its own. -/
theorem path_of_opened (attempted : ruleset.Attempted attempt host table run) {path : Path}
    {reply : Reply Nat} (opened : .openPath path reply ∈ run.calls) : attempt.path = path := by
  cases attempted with
  | committed state => exact absurd opened List.not_mem_nil
  | «open» state => exact Attempt.path_of_mem_block opened
  | refused state refused => simp at opened
  | created state granted =>
      rw [List.mem_cons] at opened
      exact Attempt.path_of_mem_block (opened.resolve_left (by simp))

end Attempted

/-- Attempts in order are answered as each of them would be answered alone. -/
theorem answers_allowEach (attempts : List Attempt) (supported : ruleset.isSupported = true)
    (table : DescriptorTable) :
    ((allowEach attempts ruleset).run host table).value.1 =
      attempts.map (ruleset.answerTo host) := by
  induction attempts generalizing ruleset table with
  | nil => rfl
  | cons attempt attempts ih =>
      have attempted := attempted_allowMask host supported attempt table
      have supported' := (isSupported_allowMask host table attempt ruleset).trans supported
      rw [run_allowEach_cons, List.map_cons]
      simp only [ih supported', attempted.answer_eq, attempted.answerTo_eq]

theorem rules_allowEach (attempts : List Attempt) (supported : ruleset.isSupported = true)
    (table : DescriptorTable) :
    let run := (allowEach attempts ruleset).run host table
    run.value.2.rules = ruleset.rules + run.value.1.count (.ok .added) := by
  induction attempts generalizing ruleset table with
  | nil => rfl
  | cons attempt attempts ih =>
      have attempted := attempted_allowMask host supported attempt table
      have supported' := (isSupported_allowMask host table attempt ruleset).trans supported
      simp only [run_allowEach_cons, ih supported', attempted.rules_eq, attempted.countP_eq,
        List.count_cons, beq_iff_eq]
      omega

/-- Attempts open no paths but their own. -/
theorem path_of_opened_allowEach {attempts : List Attempt}
    (supported : ruleset.isSupported = true) {table : DescriptorTable} {path : Path}
    {reply : Reply Nat}
    (opened : .openPath path reply ∈ ((allowEach attempts ruleset).run host table).calls) :
    ∃ attempt ∈ attempts, attempt.path = path := by
  induction attempts generalizing ruleset table with
  | nil => exact absurd opened List.not_mem_nil
  | cons attempt attempts ih =>
      have attempted := attempted_allowMask host supported attempt table
      have supported' := (isSupported_allowMask host table attempt ruleset).trans supported
      rw [run_allowEach_cons] at opened
      rcases List.mem_append.mp opened with first | later
      · exact ⟨attempt, List.mem_cons_self, attempted.path_of_opened first⟩
      · obtain ⟨other, member, path'⟩ := ih supported' later
        exact ⟨other, List.mem_cons_of_mem attempt member, path'⟩

/-- The calls of an attempt at a ruleset apart from its creation, before or behind other
attempts. -/
def callsTo (ruleset : Ruleset) (host : Host) (table : DescriptorTable) (attempt : Attempt) :
    List Call :=
  match ruleset.state, host.createError with
  | .committed, _ | .uninitialized, some _ => []
  | .uninitialized, none =>
      attempt.block host table.lowestFree (table.insert table.lowestFree .ruleset).lowestFree
  | .open descriptor, _ => attempt.block host descriptor table.lowestFree

/-- Apart from the creation of the ruleset, attempts in order make the calls that each of them
would make alone. -/
theorem filter_calls_allowEach (attempts : List Attempt) (supported : ruleset.isSupported = true)
    (table : DescriptorTable) :
    ((allowEach attempts ruleset).run host table).calls.filter (!·.creates) =
      attempts.flatMap (ruleset.callsTo host table) := by
  have blocks (descriptor parent : Nat) :
      (attempts.flatMap (·.block host descriptor parent)).filter (!·.creates) =
        attempts.flatMap (·.block host descriptor parent) := by
    apply List.filter_eq_self.mpr
    intro call member
    obtain ⟨attempt, _, made⟩ := List.mem_flatMap.mp member
    exact Attempt.creates_of_mem_block made
  cases state : ruleset.state with
  | committed =>
      rw [run_allowEach_committed attempts supported state]
      simp [callsTo, state]
  | «open» descriptor =>
      have made : ruleset.callsTo host table = (·.block host descriptor table.lowestFree) := by
        funext attempt
        simp [callsTo, state]
      rw [run_allowEach_open attempts supported state, made, blocks]
  | uninitialized =>
      cases creation : host.createError with
      | some errno =>
          rw [run_allowEach_refused attempts supported state creation]
          simp [callsTo, state, creation, Call.creates]
      | none =>
          have made : ruleset.callsTo host table = (·.block host table.lowestFree
              (table.insert table.lowestFree .ruleset).lowestFree) := by
            funext attempt
            simp [callsTo, state, creation]
          by_cases nothing : attempts = []
          · simp [nothing]
          · rw [run_allowEach_created nothing supported state creation, made]
            exact blocks _ _

end Ruleset
end FileConfinement
