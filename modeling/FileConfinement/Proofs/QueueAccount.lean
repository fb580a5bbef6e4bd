import FileConfinement.Proofs.AttemptAnswers

/-!
# The account of a queue

A queue deals with its directives from front to back, once each: a directive is skipped, becomes
one rule, or fails and is reported.  What becomes of it is decided by the host and by how far the
ruleset had come before the first directive, so that the other directives do not matter to it.
-/

namespace FileConfinement

/-- What becomes of a directive. -/
inductive Directive.Fate where
  /-- Its path does not exist. -/
  | skipped
  | added
  | failed (failure : Failure)
deriving DecidableEq, Repr

/-- Whether a directive failed. -/
def Directive.Fate.isFailed : Fate → Bool
  | failed _ => true
  | _ => false

theorem Directive.Fate.count_add_count_add_countP (fates : List Fate) :
    fates.count .added + fates.count .skipped + fates.countP isFailed = fates.length := by
  induction fates with
  | nil => rfl
  | cons fate fates ih => cases fate <;> simp [List.countP_cons, isFailed] <;> omega

namespace Directive

/-- The attempt of a directive whose path exists. -/
def attempt (directive : Directive) : Attempt :=
  ⟨directive.accessClass.mask, directive.path⟩

/-- What becomes of a directive in a queue, wherever it stands. -/
def fate (directive : Directive) (host : Host) (ruleset : Ruleset) : Fate :=
  if host.pathExists directive.path then
    match ruleset.answerTo host directive.attempt with
    | .ok _ => .added
    | .error failure => .failed failure
  else
    .skipped

/-- The ways to deal with one directive.  One whose path exists is passed on with its own class and
path, and becomes a rule or is reported. -/
inductive Deals (directive : Directive) (host : Host) (ruleset : Ruleset)
    (table : DescriptorTable) : Fate → Run Ruleset → Prop where
  | skipped (missing : host.pathExists directive.path = false) :
      Deals directive host ruleset table .skipped
        ⟨ruleset, table, [], [.directiveSkipped directive]⟩
  | added (found : host.pathExists directive.path = true)
      {asked : Run (Except Failure RuleStatus × Ruleset)}
      (passed : (ruleset.allow directive.accessClass directive.path).run host table = asked)
      (succeeded : asked.value.1 = .ok .added)
      (counted : asked.value.2.rules = ruleset.rules + 1)
      (accepted : asked.calls.countP Call.addsRule = 1)
      (quiet : ∀ event ∈ asked.events, event.level = .debug) :
      Deals directive host ruleset table .added
        ⟨asked.value.2, asked.table, asked.calls, asked.events⟩
  | failed (found : host.pathExists directive.path = true)
      {asked : Run (Except Failure RuleStatus × Ruleset)}
      (passed : (ruleset.allow directive.accessClass directive.path).run host table = asked)
      {failure : Failure} (refused : asked.value.1 = .error failure)
      (counted : asked.value.2.rules = ruleset.rules)
      (accepted : asked.calls.countP Call.addsRule = 0)
      (quiet : ∀ event ∈ asked.events, event.level = .debug) :
      Deals directive host ruleset table (.failed failure)
        ⟨asked.value.2, asked.table, asked.calls,
          asked.events ++ [.directiveFailed directive.path failure]⟩

end Directive

namespace DirectiveQueue

/-- Deal with the directives of a queue from front to back, once each, and with nothing else. -/
inductive Deals (host : Host) : DirectiveQueue → Ruleset → DescriptorTable →
    List Directive.Fate → Run Ruleset → Prop where
  | nil (ruleset : Ruleset) (table : DescriptorTable) :
      Deals host [] ruleset table [] ⟨ruleset, table, [], []⟩
  | cons {directive : Directive} {queue : DirectiveQueue} {ruleset : Ruleset}
      {table : DescriptorTable} {fate : Directive.Fate} {fates : List Directive.Fate}
      {first later : Run Ruleset} (deals : directive.Deals host ruleset table fate first)
      (others : Deals host queue first.value first.table fates later) :
      Deals host (directive :: queue) ruleset table (fate :: fates)
        ⟨later.value, later.table, first.calls ++ later.calls, first.events ++ later.events⟩

variable {host : Host} {ruleset : Ruleset}

theorem run_applyEach_cons_missing {directive : Directive}
    (missing : host.pathExists directive.path = false) (queue : DirectiveQueue)
    (ruleset : Ruleset) (table : DescriptorTable) :
    (applyEach (directive :: queue) ruleset).run host table =
      let later := (applyEach queue ruleset).run host table
      ⟨later.value, later.table, later.calls, .directiveSkipped directive :: later.events⟩ := by
  simp [applyEach, Action.run_bind, missing]

section Asked

variable {directive : Directive} (found : host.pathExists directive.path = true)
  (queue : DirectiveQueue) {table : DescriptorTable}
  {asked : Run (Except Failure RuleStatus × Ruleset)}
  (passed : (ruleset.allow directive.accessClass directive.path).run host table = asked)
include found passed

theorem run_applyEach_cons_added {status : RuleStatus} (succeeded : asked.value.1 = .ok status) :
    (applyEach (directive :: queue) ruleset).run host table =
      let later := (applyEach queue asked.value.2).run host asked.table
      ⟨(later.value.1 + 1, later.value.2), later.table, asked.calls ++ later.calls,
        asked.events ++ later.events⟩ := by
  simp [applyEach, Action.run_bind, found, passed, succeeded]

theorem run_applyEach_cons_failed {failure : Failure} (refused : asked.value.1 = .error failure) :
    (applyEach (directive :: queue) ruleset).run host table =
      let later := (applyEach queue asked.value.2).run host asked.table
      ⟨later.value, later.table, asked.calls ++ later.calls,
        asked.events ++ [.directiveFailed directive.path failure] ++ later.events⟩ := by
  simp [applyEach, Action.run_bind, found, passed, refused]

end Asked

/-- A step of the application deals with one directive and leaves the fates of the others as they
were. -/
theorem exists_deals_cons (directive : Directive) (queue : DirectiveQueue)
    (supported : ruleset.isSupported = true) (table : DescriptorTable) :
    ∃ first : Run Ruleset,
      directive.Deals host ruleset table (directive.fate host ruleset) first ∧
      first.value.isSupported = true ∧
      first.value.answerTo host = ruleset.answerTo host ∧
      (applyEach (directive :: queue) ruleset).run host table =
        let later := (applyEach queue first.value).run host first.table
        ⟨([directive.fate host ruleset].count .added + later.value.1, later.value.2), later.table,
          first.calls ++ later.calls, first.events ++ later.events⟩ := by
  cases found : host.pathExists directive.path with
  | false =>
      have fate : directive.fate host ruleset = .skipped := by simp [Directive.fate, found]
      rw [fate, run_applyEach_cons_missing found]
      exact ⟨_, .skipped found, supported, rfl, by simp⟩
  | true =>
      have supported' := (Ruleset.isSupported_allowMask host table directive.attempt
        ruleset).trans supported
      have attempted := Ruleset.attempted_allowMask host supported directive.attempt table
      have answered := attempted.answer_eq
      have rules := attempted.rules_eq
      have accepted := attempted.countP_eq
      rcases ruleset.answerTo_cases host directive.attempt with success | ⟨failure, refused⟩
      · have fate : directive.fate host ruleset = .added := by simp [Directive.fate, found, success]
        rw [success] at answered
        rw [answered, if_pos rfl] at accepted
        rw [accepted] at rules
        rw [fate, run_applyEach_cons_added found queue rfl answered]
        refine ⟨_, .added found rfl answered rules accepted attempted.level_eq, supported',
          attempted.answerTo_eq, ?_⟩
        simp [Nat.add_comm]
      · have fate : directive.fate host ruleset = .failed failure := by
          simp [Directive.fate, found, refused]
        rw [refused] at answered
        rw [answered, if_neg (by simp)] at accepted
        rw [accepted] at rules
        rw [fate, run_applyEach_cons_failed found queue rfl answered]
        refine ⟨_, .failed found rfl answered rules accepted attempted.level_eq, supported',
          attempted.answerTo_eq, ?_⟩
        simp

/-- By induction on the queue, with the ruleset of the first step for the others. -/
theorem deals_applyEach (queue : DirectiveQueue) (supported : ruleset.isSupported = true)
    (table : DescriptorTable) :
    let run := (applyEach queue ruleset).run host table
    let fates := queue.map (·.fate host ruleset)
    queue.Deals host ruleset table fates ⟨run.value.2, run.table, run.calls, run.events⟩ ∧
      run.value.1 = fates.count .added := by
  induction queue generalizing ruleset table with
  | nil => exact ⟨.nil ruleset table, rfl⟩
  | cons directive queue ih =>
      obtain ⟨first, deals, supported', answers, step⟩ :=
        @exists_deals_cons host ruleset directive queue supported table
      obtain ⟨others, counted⟩ := ih supported' first.table
      have fates : queue.map (·.fate host first.value) = queue.map (·.fate host ruleset) := by
        simp only [Directive.fate, answers]
      rw [fates] at others counted
      rw [step, List.map_cons]
      refine ⟨.cons deals others, ?_⟩
      simp only [counted, List.count_cons, List.count_nil]
      omega

theorem run_apply_supported (queue : DirectiveQueue) (supported : ruleset.isSupported = true)
    (table : DescriptorTable) :
    (queue.apply ruleset).run host table = (queue.applyEach ruleset).run host table := by
  simp [apply, supported]

end DirectiveQueue

namespace Directive.Deals

variable {directive : Directive} {host : Host} {ruleset : Ruleset} {table : DescriptorTable}
  {fate : Fate} {run : Run Ruleset}

theorem rules_eq (deals : directive.Deals host ruleset table fate run) :
    run.value.rules = ruleset.rules + [fate].count .added := by
  cases deals with
  | skipped => rfl
  | added _ _ _ counted => exact counted
  | failed _ _ _ counted => simpa using counted

theorem countP_eq (deals : directive.Deals host ruleset table fate run) :
    run.calls.countP Call.addsRule = [fate].count .added := by
  cases deals with
  | skipped => rfl
  | added _ _ _ _ accepted => exact accepted
  | failed _ _ _ _ accepted => simpa using accepted

/-- A directive that fails is reported as one error, and no other one is. -/
theorem length_errors (deals : directive.Deals host ruleset table fate run) :
    (Event.atLevel .error run.events).length = [fate].countP Fate.isFailed := by
  have noError : ∀ {events : List Event}, (∀ event ∈ events, event.level = .debug) →
      Event.atLevel .error events = [] := fun quiet =>
    Event.atLevel_eq_nil fun event member => by simp [quiet event member]
  cases deals with
  | skipped => rfl
  | added _ _ _ _ _ quiet =>
      rw [noError quiet]
      rfl
  | failed _ _ _ _ _ quiet =>
      rw [Event.atLevel_append, noError quiet]
      rfl

end Directive.Deals

namespace DirectiveQueue.Deals

variable {queue : DirectiveQueue} {host : Host} {ruleset : Ruleset} {table : DescriptorTable}
  {fates : List Directive.Fate} {run : Run Ruleset}

theorem rules_eq (deals : queue.Deals host ruleset table fates run) :
    run.value.rules = ruleset.rules + fates.count .added := by
  induction deals with
  | nil => rfl
  | cons deals _ ih =>
      simp only [ih, deals.rules_eq, List.count_cons, List.count_nil]
      omega

theorem countP_eq (deals : queue.Deals host ruleset table fates run) :
    run.calls.countP Call.addsRule = fates.count .added := by
  induction deals with
  | nil => rfl
  | cons deals _ ih =>
      simp only [List.countP_append, ih, deals.countP_eq, List.count_cons, List.count_nil]
      omega

theorem length_errors (deals : queue.Deals host ruleset table fates run) :
    (Event.atLevel .error run.events).length = fates.countP Directive.Fate.isFailed := by
  induction deals with
  | nil => rfl
  | cons deals _ ih =>
      simp only [Event.atLevel_append, List.length_append, ih, deals.length_errors,
        List.countP_cons, List.countP_nil]
      omega

end DirectiveQueue.Deals

namespace DirectiveQueue

theorem attempts_append (first second : DirectiveQueue) (host : Host) :
    attempts (first ++ second) host = attempts first host ++ attempts second host := by
  simp [attempts, Attempt.existing]

variable {host : Host} {ruleset : Ruleset}

theorem filter_calls_apply (queue : DirectiveQueue) (supported : ruleset.isSupported = true)
    (table : DescriptorTable) :
    ((queue.apply ruleset).run host table).calls.filter (!·.creates) =
      (queue.attempts host).flatMap (ruleset.callsTo host table) := by
  have calls : ((queue.apply ruleset).run host table).calls = _ :=
    congrArg Trail.calls (queue.trail_apply host supported table)
  rw [calls]
  exact Ruleset.filter_calls_allowEach (queue.attempts host) supported table

theorem count_added_eq_zero {queue : DirectiveQueue} {failure : Failure}
    (refused : ∀ attempt, ruleset.answerTo host attempt = .error failure) :
    (queue.map (·.fate host ruleset)).count .added = 0 := by
  apply List.count_eq_zero.mpr
  intro member
  obtain ⟨directive, _, fate⟩ := List.mem_map.mp member
  simp only [Directive.fate, refused] at fate
  split at fate <;> exact absurd fate (by simp)

/-- On a kernel that is recent enough a queue deals with each of its directives once and answers
how many rules it added.  What becomes of the others, and the calls that are made for them, are the
same without a directive that fails. -/
theorem accounts_for_everything (queue : DirectiveQueue) (host : Host) (table : DescriptorTable)
    {ruleset : Ruleset} (supported : ruleset.isSupported = true) :
    let run := (queue.apply ruleset).run host table
    let fates := queue.map (·.fate host ruleset)
    queue.Deals host ruleset table fates ⟨run.value.2, run.table, run.calls, run.events⟩ ∧
      run.value.2.rules = ruleset.rules + run.value.1 ∧
      run.calls.countP Call.addsRule = run.value.1 ∧
      run.value.1 = fates.count .added ∧
      (Event.atLevel .error run.events).length = fates.countP Directive.Fate.isFailed ∧
      run.value.1 + fates.count .skipped + fates.countP Directive.Fate.isFailed =
        queue.length ∧
      (∀ (before after : DirectiveQueue) directive failure,
        queue = before ++ directive :: after → directive.fate host ruleset = .failed failure →
        let others := ((before ++ after).apply ruleset).run host table
        Deals host (before ++ after) ruleset table ((before ++ after).map (·.fate host ruleset))
            ⟨others.value.2, others.table, others.calls, others.events⟩ ∧
          others.value.1 = run.value.1 ∧
          ∃ front back,
            run.calls.filter (!·.creates) =
              front ++ ruleset.callsTo host table directive.attempt ++ back ∧
            others.calls.filter (!·.creates) = front ++ back) ∧
      (ruleset.state = .committed → run.value.1 = 0) ∧
      (ruleset.state = .uninitialized → host.createError ≠ none → run.value.1 = 0) := by
  have account (queue : DirectiveQueue) :
      let run := (queue.apply ruleset).run host table
      let fates := queue.map (·.fate host ruleset)
      queue.Deals host ruleset table fates ⟨run.value.2, run.table, run.calls, run.events⟩ ∧
        run.value.1 = fates.count .added := by
    rw [run_apply_supported queue supported]
    exact queue.deals_applyEach supported table
  intro run fates
  obtain ⟨deals, counted⟩ := account queue
  refine ⟨deals, counted ▸ deals.rules_eq, counted ▸ deals.countP_eq, counted,
    deals.length_errors, ?_, ?_, ?_, ?_⟩
  · rw [show run.value.1 = _ from counted, Directive.Fate.count_add_count_add_countP]
    exact List.length_map _
  · rintro before after directive failure rfl fate others
    obtain ⟨deals', counted'⟩ := account (before ++ after)
    refine ⟨deals', ?_, (attempts before host).flatMap (ruleset.callsTo host table),
      (attempts after host).flatMap (ruleset.callsTo host table), ?_, ?_⟩
    · rw [show others.value.1 = _ from counted', show run.value.1 = _ from counted]
      simp [fate]
    · have found : host.pathExists directive.path = true := by
        by_contra missing
        simp [Directive.fate, missing] at fate
      rw [show run = _ from rfl, filter_calls_apply _ supported, attempts_append,
        attempts_cons_of_exists found, List.flatMap_append, List.flatMap_cons, List.append_assoc]
      rfl
    · rw [show others = _ from rfl, filter_calls_apply _ supported, attempts_append,
        List.flatMap_append]
  · intro committed
    rw [show run.value.1 = _ from counted]
    exact count_added_eq_zero (Ruleset.answerTo_committed committed host)
  · intro fresh refused
    obtain ⟨errno, refused⟩ := Option.ne_none_iff_exists'.mp refused
    rw [show run.value.1 = _ from counted]
    exact count_added_eq_zero (Ruleset.answerTo_refused fresh refused)

/-- A directive for each fate on a host that has one path it does not open. -/
theorem accounts_for_everything_of_three :
    let root := Path.ofString "/"
    let locked := Path.ofString "/locked"
    let host := { Host.willing [root] with
      files := [⟨root, none, none, none, none⟩, ⟨locked, none, some .notFound, none, none⟩] }
    let queue : DirectiveQueue :=
      [⟨.write, locked⟩, ⟨.execute, .ofString "/missing"⟩, ⟨.read, root⟩]
    let ruleset := Ruleset.forKernel ⟨6, 5⟩
    let run := (queue.apply ruleset).run host []
    ruleset.isSupported = true ∧
      queue.map (·.fate host ruleset) =
        [.failed (.insertion locked (.code .notFound)), .skipped, .added] ∧
      run.value.1 = 1 ∧ run.value.2.rules = 1 := by
  intro root locked host queue ruleset run
  have supported : ruleset.isSupported = true := by decide
  have fates : queue.map (·.fate host ruleset) =
      [.failed (.insertion locked (.code .notFound)), .skipped, .added] := by decide
  obtain ⟨_, rules, _, counted, _⟩ := queue.accounts_for_everything host [] supported
  rw [fates] at counted
  have one : run.value.1 = 1 := counted
  exact ⟨supported, fates, one, rules.trans (one ▸ rfl)⟩

end DirectiveQueue
end FileConfinement
