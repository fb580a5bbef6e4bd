import FileConfinement.Proofs.AttemptAnswers
import FileConfinement.Proofs.Requests

/-!
# What the application of a baseline answers and reports

The application of a baseline makes every attempt, whatever becomes of the others, and keeps a tally
of the failures.  Its answer is the first failure, every failure is reported where it occurs, and
what is reported last is how many rules the ruleset has and how many attempts failed.
-/

namespace FileConfinement
namespace Baseline

/-- A home directory that is not known counts as a first attempt that failed. -/
def unknownHomeAnswer (baseline : Baseline) : List (Except Failure RuleStatus) :=
  match baseline.home with
  | some _ => []
  | none => [.error (.insertion unknownHome .homeUnresolved)]

/-- The answers to the attempts of a baseline, in order. -/
def answers (baseline : Baseline) (host : Host) (ruleset : Ruleset) :
    List (Except Failure RuleStatus) :=
  baseline.unknownHomeAnswer ++ (baseline.attempts host).map (ruleset.answerTo host)

namespace Tally

def addAll (tally : Tally) (failures : List Failure) : Tally :=
  failures.foldl add tally

theorem addAll_cons (tally : Tally) (failure : Failure) (failures : List Failure) :
    tally.addAll (failure :: failures) = (tally.add failure).addAll failures :=
  rfl

theorem addAll_append (tally : Tally) (first second : List Failure) :
    tally.addAll (first ++ second) = (tally.addAll first).addAll second :=
  List.foldl_append

theorem first_addAll (tally : Tally) (failures : List Failure) :
    (tally.addAll failures).first = tally.first.or failures.head? := by
  induction failures generalizing tally with
  | nil => simp [addAll]
  | cons failure failures ih =>
      rw [addAll_cons, ih]
      cases held : tally.first <;> simp [add, held]

theorem count_addAll (tally : Tally) (failures : List Failure) :
    (tally.addAll failures).count = tally.count + failures.length := by
  induction failures generalizing tally with
  | nil => rfl
  | cons failure failures ih =>
      rw [addAll_cons, ih, List.length_cons]
      simp only [add]
      omega

end Tally

/-- Events that report some failures, each as an error, and give no summary. -/
structure Reports (events : List Event) (failures : List Failure) : Prop where
  errors : Event.atLevel .error events = failures.map .baselineRuleFailed
  unsummarized : Event.atLevel .info events = []

theorem Reports.append {first second : List Event} {failures later : List Failure}
    (reports : Reports first failures) (reports' : Reports second later) :
    Reports (first ++ second) (failures ++ later) := by
  refine ⟨?_, ?_⟩
  · rw [Event.atLevel_append, reports.errors, reports'.errors, List.map_append]
  · rw [Event.atLevel_append, reports.unsummarized, reports'.unsummarized, List.append_nil]

theorem reports_of_debug {events : List Event} (quiet : ∀ event ∈ events, event.level = .debug) :
    Reports events [] := by
  refine ⟨Event.atLevel_eq_nil ?_, Event.atLevel_eq_nil ?_⟩
  · intro event member
    simp [quiet event member]
  · intro event member
    simp [quiet event member]

theorem reports_failures (failures : List Failure) :
    Reports (failures.map .baselineRuleFailed) failures := by
  refine ⟨?_, Event.atLevel_eq_nil ?_⟩
  · apply List.filter_eq_self.mpr
    intro event member
    obtain ⟨failure, _, rfl⟩ := List.mem_map.mp member
    rfl
  · intro event member
    obtain ⟨failure, _, rfl⟩ := List.mem_map.mp member
    simp [Event.level]

variable {host : Host} {ruleset : Ruleset}

theorem run_record_eq (tally : Tally) (answer : Except Failure RuleStatus)
    (table : DescriptorTable) :
    (record tally answer).run host table =
      ⟨tally.addAll (failuresOf [answer]), table, [],
        (failuresOf [answer]).map .baselineRuleFailed⟩ := by
  cases answer <;> rfl

/-- The reports of an attempt and of the record of its answer. -/
theorem reports_recorded (host : Host) (supported : ruleset.isSupported = true)
    (attempt : Attempt) (table : DescriptorTable) :
    let failures := failuresOf [ruleset.answerTo host attempt]
    Reports (((ruleset.allowMask attempt.mask attempt.path).run host table).events ++
      failures.map .baselineRuleFailed) failures := by
  have attempted := Ruleset.attempted_allowMask host supported attempt table
  exact (reports_of_debug attempted.level_eq).append (reports_failures _)

/-- A walk over rules tallies and reports the failures of its attempts. -/
theorem run_applyRules (rules : List ClassRule) (tally : Tally)
    (supported : ruleset.isSupported = true) (table : DescriptorTable) :
    let run := (applyRules rules tally ruleset).run host table
    let failures := failuresOf ((Attempt.existing host rules).map (ruleset.answerTo host))
    run.value.1 = tally.addAll failures ∧ Reports run.events failures := by
  induction rules generalizing tally ruleset table with
  | nil => exact ⟨rfl, reports_of_debug (by simp [applyRules])⟩
  | cons rule rules ih =>
      obtain ⟨accessClass, path⟩ := rule
      cases found : host.pathExists path with
      | true =>
          let attempt : Attempt := ⟨accessClass.mask, path⟩
          have attempted := Ruleset.attempted_allowMask host supported attempt table
          have supported' := (Ruleset.isSupported_allowMask host table attempt ruleset).trans
            supported
          have here := reports_recorded host supported attempt table
          obtain ⟨tallied, reported⟩ := ih
            (tally.addAll (failuresOf [ruleset.answerTo host attempt])) supported'
            ((ruleset.allowMask attempt.mask attempt.path).run host table).table
          rw [attempted.answerTo_eq] at tallied reported
          rw [Attempt.existing_cons_of_exists found, List.map_cons, failuresOf_cons]
          simp only [applyRules, Action.run_bind, Action.run_ask, found, if_true, Ruleset.allow,
            run_record_eq, List.nil_append]
          refine ⟨?_, ?_⟩
          · rw [Tally.addAll_append, ← tallied, attempted.answer_eq]
          · rw [← List.append_assoc, attempted.answer_eq]
            exact here.append reported
      | false =>
          obtain ⟨tallied, reported⟩ := ih tally supported table
          have skipped : Reports [.baselineRuleSkipped accessClass path] [] :=
            reports_of_debug (by simp [Event.level])
          rw [Attempt.existing_cons_of_missing found]
          simp only [applyRules, Action.run_bind, Action.run_ask, found, Bool.false_eq_true,
            if_false, Action.run_report, List.nil_append]
          exact ⟨tallied, skipped.append reported⟩

/-- The attempt for the home directory comes first, and not knowing it is recorded as a
failure. -/
theorem run_applyHome (baseline : Baseline) (supported : ruleset.isSupported = true)
    (table : DescriptorTable) :
    let run := (applyHome baseline.home ruleset).run host table
    let attempts : List Attempt := (baseline.home.map fun home => ⟨homeMask, home⟩).toList
    let failures := failuresOf (baseline.unknownHomeAnswer ++
      attempts.map (ruleset.answerTo host))
    run.value.1 = Tally.none.addAll failures ∧ Reports run.events failures ∧
      run.value.2.isSupported = true ∧ run.value.2.answerTo host = ruleset.answerTo host := by
  cases known : baseline.home with
  | none =>
      simp only [applyHome, unknownHomeAnswer, known, Action.run_bind, run_record_eq,
        Action.run_pure, List.append_nil]
      exact ⟨rfl, reports_failures _, supported, trivial⟩
  | some home =>
      let attempt : Attempt := ⟨homeMask, home⟩
      have attempted := Ruleset.attempted_allowMask host supported attempt table
      have answered : ((ruleset.allowMask homeMask home).run host table).value.1 =
          ruleset.answerTo host attempt := attempted.answer_eq
      have reported := reports_recorded host supported attempt table
      simp only [applyHome, unknownHomeAnswer, known, Action.run_bind, run_record_eq,
        Action.run_pure, List.append_nil, answered]
      exact ⟨rfl, reported, (Ruleset.isSupported_allowMask host table attempt ruleset).trans
        supported, attempted.answerTo_eq⟩

/-- The application of a baseline answers the first failure, reports every failure and, last
of all, how many there were. -/
theorem run_apply (baseline : Baseline) (supported : ruleset.isSupported = true)
    (table : DescriptorTable) :
    let run := (baseline.apply ruleset).run host table
    let failures := failuresOf (baseline.answers host ruleset)
    run.value.1 = (match failures.head? with
      | some failure => .error failure
      | none => .ok ()) ∧
    ∃ earlier, Reports earlier failures ∧
      run.events = earlier ++ [.baselineApplied run.value.2.rules failures.length] := by
  intro run failures
  let home := (applyHome baseline.home ruleset).run host table
  let walk := (applyRules baseline.rules home.value.1 home.value.2).run host home.table
  obtain ⟨tallied, reported, supported', answered⟩ := baseline.run_applyHome supported table
  obtain ⟨tallied', reported'⟩ := run_applyRules baseline.rules home.value.1 supported' home.table
  rw [answered] at tallied' reported'
  have whole : failures = failuresOf (baseline.unknownHomeAnswer ++
      (baseline.home.map fun home => (⟨homeMask, home⟩ : Attempt)).toList.map
        (ruleset.answerTo host)) ++
      failuresOf ((Attempt.existing host baseline.rules).map (ruleset.answerTo host)) := by
    simp [failures, failuresOf, answers, attempts]
  have tally : walk.value.1 = Tally.none.addAll failures := by
    rw [whole, Tally.addAll_append, ← tallied, ← tallied']
  have first : walk.value.1.first = failures.head? := by
    rw [tally, Tally.first_addAll]
    rfl
  have count : walk.value.1.count = failures.length := by
    rw [tally, Tally.count_addAll]
    exact Nat.zero_add _
  have unfolded : run = ⟨((match walk.value.1.first with
      | some failure => .error failure
      | none => .ok ()), walk.value.2), walk.table, home.calls ++ walk.calls,
      home.events ++ walk.events ++ [.baselineApplied walk.value.2.rules walk.value.1.count]⟩ := by
    cases failure : walk.value.1.first <;>
      simp [run, apply, supported, Action.run_bind, walk, home, failure]
  rw [unfolded, first, count]
  refine ⟨rfl, home.events ++ walk.events, ?_, rfl⟩
  rw [whole]
  exact reported.append reported'

section Answers

variable {baseline : Baseline}

theorem answer_cases {answer : Except Failure RuleStatus}
    (member : answer ∈ baseline.answers host ruleset) :
    answer = .ok .added ∨ ∃ failure, answer = .error failure := by
  rcases List.mem_append.mp member with unknown | attempted
  · rw [unknownHomeAnswer] at unknown
    split at unknown
    · exact absurd unknown List.not_mem_nil
    · exact .inr ⟨_, List.mem_singleton.mp unknown⟩
  · obtain ⟨attempt, _, rfl⟩ := List.mem_map.mp attempted
    exact ruleset.answerTo_cases host attempt

theorem exists_ok_iff {answer : Except Failure RuleStatus}
    (member : answer ∈ baseline.answers host ruleset) :
    (∃ status, answer = .ok status) ↔ answer = .ok .added := by
  constructor
  · rintro ⟨status, rfl⟩
    exact (answer_cases member).resolve_right fun ⟨_, failed⟩ => by cases failed
  · exact fun succeeded => ⟨_, succeeded⟩

/-- The home directory counts in any case, a rule only if its path exists. -/
theorem length_answers :
    (baseline.answers host ruleset).length =
      1 + (baseline.rules.filter fun rule => host.pathExists rule.2).length := by
  cases known : baseline.home <;>
    simp [answers, unknownHomeAnswer, attempts, known, Attempt.existing, Nat.add_comm]

theorem head?_answers_of_unknown (unknown : baseline.home = none) :
    (baseline.answers host ruleset).head? =
      some (.error (.insertion unknownHome .homeUnresolved)) := by
  simp [answers, unknownHomeAnswer, unknown]

/-- A home directory that is not there is a failure. -/
theorem head?_answers_of_missing {home : Path} (known : baseline.home = some home)
    (missing : home.hasNul = true ∨ host.file? home = none) :
    ∃ failure, (baseline.answers host ruleset).head? = some (.error failure) := by
  obtain ⟨failure, failed⟩ := @Ruleset.answerTo_of_missing host ruleset ⟨homeMask, home⟩ missing
  exact ⟨failure, by simp [answers, unknownHomeAnswer, attempts, known, failed]⟩

theorem count_answers (supported : ruleset.isSupported = true) (table : DescriptorTable) :
    ((Ruleset.allowEach (baseline.attempts host) ruleset).run host table).value.2.rules =
      ruleset.rules + (baseline.answers host ruleset).count (.ok .added) := by
  have unknown : baseline.unknownHomeAnswer.count (.ok .added) = 0 := by
    cases known : baseline.home <;> simp [unknownHomeAnswer, known]
  rw [Ruleset.rules_allowEach (baseline.attempts host) supported table,
    Ruleset.answers_allowEach (baseline.attempts host) supported table, answers,
    List.count_append, unknown, Nat.zero_add]

/-- A path that does not exist is opened at most as the home directory. -/
theorem path_of_opened (supported : ruleset.isSupported = true) {table : DescriptorTable}
    {path : Path} {reply : Reply Nat}
    (opened : .openPath path reply ∈ ((baseline.apply ruleset).run host table).calls) :
    baseline.home = some path ∨ host.pathExists path = true := by
  have trail := baseline.trail_apply host supported table
  have calls : ((baseline.apply ruleset).run host table).calls = _ := congrArg Trail.calls trail
  rw [calls] at opened
  obtain ⟨attempt, member, rfl⟩ := Ruleset.path_of_opened_allowEach supported opened
  rcases mem_attempts_iff.mp member with ⟨home, known, rfl⟩ | existing
  · exact .inl known
  · obtain ⟨accessClass, path, _, found, rfl⟩ := Attempt.mem_existing_iff.mp existing
    exact .inr found

end Answers

section Apply

variable (baseline : Baseline) (supported : ruleset.isSupported = true) (table : DescriptorTable)
include supported

theorem value_apply_eq_ok_iff :
    ((baseline.apply ruleset).run host table).value.1 = .ok () ↔
      ∀ answer ∈ baseline.answers host ruleset, answer = .ok .added := by
  rw [(baseline.run_apply supported table).1]
  have succeeded : failuresOf (baseline.answers host ruleset) = [] ↔
      ∀ answer ∈ baseline.answers host ruleset, answer = .ok .added := by
    rw [failuresOf_eq_nil_iff]
    exact forall₂_congr fun answer member => exists_ok_iff member
  rw [← succeeded]
  cases failuresOf (baseline.answers host ruleset) <;> simp

theorem value_apply_eq_error_iff (failure : Failure) :
    ((baseline.apply ruleset).run host table).value.1 = .error failure ↔
      ∃ before after, baseline.answers host ruleset = before ++ .error failure :: after ∧
        ∀ answer ∈ before, answer = .ok .added := by
  have first : ((baseline.apply ruleset).run host table).value.1 = .error failure ↔
      (failuresOf (baseline.answers host ruleset)).head? = some failure := by
    rw [(baseline.run_apply supported table).1]
    cases failuresOf (baseline.answers host ruleset) <;> simp
  rw [first, head?_failuresOf_iff]
  refine exists₂_congr fun before after => and_congr_right fun split => ?_
  refine forall₂_congr fun answer member => ?_
  have among : answer ∈ baseline.answers host ruleset := split ▸ List.mem_append_left _ member
  exact exists_ok_iff among

end Apply

/-- On a kernel that is recent enough the application of a baseline makes the attempt for the
home directory and those for the rules whose paths exist, in order and whatever fails. -/
theorem attempts_everything (baseline : Baseline) (host : Host) (table : DescriptorTable)
    {ruleset : Ruleset} (supported : ruleset.isSupported = true) :
    let run := (baseline.apply ruleset).run host table
    let attempts : List Attempt :=
      (baseline.home.map fun home => ⟨homeMask, home⟩).toList ++
        Attempt.existing host baseline.rules
    let attempted := (Ruleset.allowEach attempts ruleset).run host table
    let answers := baseline.unknownHomeAnswer ++ attempted.value.1
    let failures := failuresOf answers
    run.value.2 = attempted.value.2 ∧ run.table = attempted.table ∧
      run.calls = attempted.calls ∧
      answers.length = 1 + (baseline.rules.filter fun rule => host.pathExists rule.2).length ∧
      (∀ path reply, .openPath path reply ∈ run.calls →
        baseline.home = some path ∨ host.pathExists path = true) ∧
      (baseline.home = none →
        answers.head? = some (.error (.insertion (.ofString "$HOME") .homeUnresolved))) ∧
      (∀ home, baseline.home = some home → (home.hasNul = true ∨ host.file? home = none) →
        ∃ failure, answers.head? = some (.error failure)) ∧
      (run.value.1 = .ok () ↔ ∀ answer ∈ answers, answer = .ok .added) ∧
      (∀ failure, run.value.1 = .error failure ↔
        ∃ before after, answers = before ++ .error failure :: after ∧
          ∀ answer ∈ before, answer = .ok .added) ∧
      Event.atLevel .error run.events = failures.map .baselineRuleFailed ∧
      run.value.2.rules = ruleset.rules + answers.count (.ok .added) ∧
      ∃ earlier, run.events = earlier ++ [.baselineApplied run.value.2.rules failures.length] ∧
        Event.atLevel .info earlier = [] := by
  intro run attempts attempted answers failures
  have trail : run.trail = attempted.trail := baseline.trail_apply host supported table
  have reached : run.value.2 = attempted.value.2 := congrArg Trail.ruleset trail
  have answered : answers = baseline.answers host ruleset :=
    congrArg (baseline.unknownHomeAnswer ++ ·) (Ruleset.answers_allowEach attempts supported table)
  have failed : failures = failuresOf (baseline.answers host ruleset) :=
    congrArg failuresOf answered
  obtain ⟨_, earlier, reports, events⟩ := baseline.run_apply supported table
  rw [answered, failed]
  refine ⟨reached, congrArg Trail.table trail, congrArg Trail.calls trail, length_answers,
    fun path reply => path_of_opened supported, head?_answers_of_unknown,
    fun home => head?_answers_of_missing, baseline.value_apply_eq_ok_iff supported table,
    baseline.value_apply_eq_error_iff supported table, ?_, ?_, earlier, events,
    reports.unsummarized⟩
  · rw [show run.events = _ from events, Event.atLevel_append, reports.errors]
    exact List.append_nil _
  · rw [reached]
    exact count_answers supported table

/-- A baseline without a home directory on a host that refuses nothing. -/
theorem attempts_everything_without_home :
    let baseline : Baseline := ⟨none, 0, .ofString "/opt/app"⟩
    let ruleset := Ruleset.forKernel ⟨6, 5⟩
    let run := (baseline.apply ruleset).run (.willing [.ofString "/"]) []
    ruleset.isSupported = true ∧
      run.value.1 = .error (.insertion (.ofString "$HOME") .homeUnresolved) := by
  intro baseline ruleset run
  have supported : ruleset.isSupported = true := by decide
  obtain ⟨_, _, _, _, _, _, _, _, first, _⟩ :=
    baseline.attempts_everything (.willing [.ofString "/"]) [] supported
  exact ⟨supported, (first _).mpr ⟨[], _, rfl, by simp⟩⟩

end Baseline
end FileConfinement
