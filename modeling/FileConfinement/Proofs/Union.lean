import FileConfinement.Proofs.Grants
import FileConfinement.Proofs.Requests

/-!
# The union of requests

What some requests on a fresh ruleset grant is the union of what each of them asks for,
as far as the host accepts it.  Taking the queues apart leaves single requests: the order
of these matters neither for the grants nor for the number of rules nor for committing
them, and repeating them does not matter for the grants.
-/

namespace FileConfinement

theorem AccessClass.existsUnique_carries (right : Right) :
    ∃! accessClass : AccessClass, accessClass.mask.carries right = true := by
  refine ⟨owner right, ?_, ?_⟩
  · simp [carries_mask]
  · intro accessClass carries
    rw [carries_mask, decide_eq_true_eq] at carries
    exact carries.symm

/-- In another order attempts leave the same ruleset and the same open descriptors
behind. -/
theorem Ruleset.run_allowEach_perm {host : Host} {ruleset : Ruleset}
    {attempts others : List Attempt} (permuted : attempts.Perm others)
    (supported : ruleset.isSupported = true) (fresh : ruleset.state = .uninitialized)
    (granted : host.createError = none) (table : DescriptorTable) :
    ((allowEach attempts ruleset).run host table).value.2 =
        ((allowEach others ruleset).run host table).value.2 ∧
      ((allowEach attempts ruleset).run host table).table =
        ((allowEach others ruleset).run host table).table := by
  by_cases none' : attempts = []
  · have none'' : others = [] := (none' ▸ permuted).nil_eq.symm
    rw [none', none'']
    exact ⟨rfl, rfl⟩
  · have some' : others ≠ [] := fun none'' => none' (none'' ▸ permuted).eq_nil
    have added : addedBy attempts host = addedBy others host := permuted.countP_eq _
    rw [run_allowEach_created none' supported fresh granted,
      run_allowEach_created some' supported fresh granted, added]
    exact ⟨rfl, rfl⟩

namespace Session

/-- Some steps grant a right beneath a path. -/
def Grants (session : Session) (steps : List Step) (path : Path) (right : Right) : Prop :=
  session.table.Granted (session.callsOf steps) path right

/-- Two lists of steps grant the same rights beneath the same paths. -/
def SameGrants (session : Session) (steps others : List Step) : Prop :=
  ∀ path right, session.Grants steps path right ↔ session.Grants others path right

/-- Two lists of steps grant the same, by the same number of rules, and committing the
ruleset answers the same after both. -/
structure SameOutcome (session : Session) (steps others : List Step) : Prop where
  grants : session.SameGrants steps others
  rules : (session.after steps).ruleset.map Ruleset.rules =
    (session.after others).ruleset.map Ruleset.rules
  commit : ((session.after steps).perform .restrict).answer =
    ((session.after others).perform .restrict).answer

/-- The single requests of an operation: a queue is taken apart, and a directive whose
path exists is asked for directly. -/
def Step.singles (host : Host) : Step → List Step
  | .queue directives => directives.map fun directive =>
      if host.pathExists directive.path then
        .allow directive.accessClass directive.path
      else
        .queue [directive]
  | step => [step]

/-- The requests of some steps on a session are united faithfully. -/
structure Unites (session : Session) (steps : List Step) : Prop where
  /-- Exactly what is asked for and accepted is granted. -/
  grants_iff : ∀ path right, session.Grants steps path right ↔
    session.host.Accepts path ∧
      ∃ accessClass : AccessClass, accessClass.mask.carries right = true ∧
        ∃ step ∈ steps, step.Requests session.host accessClass path
  one_owner : ∀ right, ∃! accessClass : AccessClass, accessClass.mask.carries right = true
  /-- No right of a class that is not asked for is granted. -/
  unrequested : ∀ (accessClass : AccessClass) path,
    (∀ step ∈ steps, ¬ step.Requests session.host accessClass path) →
      ∀ right, accessClass.mask.carries right = true → ¬ session.Grants steps path right
  /-- The order of the operations does not matter. -/
  permuted : ∀ others, steps.Perm others → session.SameOutcome steps others
  /-- The order of a queue's directives does not matter. -/
  queue_permuted : ∀ before (queue other : DirectiveQueue) after,
    steps = before ++ .queue queue :: after → queue.Perm other →
      session.SameOutcome steps (before ++ .queue other :: after)
  /-- Repeating operations does not matter for the grants. -/
  repeated : ∀ others, (∀ step, step ∈ steps ↔ step ∈ others) →
    session.SameGrants steps others
  /-- Repeating directives of a queue does not matter for the grants. -/
  queue_repeated : ∀ before (queue other : DirectiveQueue) after,
    steps = before ++ .queue queue :: after →
      (∀ directive, directive ∈ queue ↔ directive ∈ other) →
        session.SameGrants steps (before ++ .queue other :: after)
  /-- Neither does it matter which directives for existing paths are asked for directly
  and which in queues. -/
  regrouped : ∀ others,
    (steps.flatMap (·.singles session.host)).Perm (others.flatMap (·.singles session.host)) →
      session.SameOutcome steps others

section Singles

variable {host : Host}

theorem Step.attempts_singles (step : Step) :
    (step.singles host).flatMap (·.attempts host) = step.attempts host := by
  cases step with
  | queue queue =>
      induction queue with
      | nil => rfl
      | cons directive queue ih =>
          simp only [singles, attempts] at ih
          cases found : host.pathExists directive.path with
          | true =>
              simp only [singles, List.map_cons, List.flatMap_cons, found, if_true, attempts,
                DirectiveQueue.attempts_cons_of_exists found, ih, List.cons_append,
                List.nil_append]
          | false =>
              have absent : DirectiveQueue.attempts [directive] host = [] :=
                DirectiveQueue.attempts_cons_of_missing found []
              simp only [singles, List.map_cons, List.flatMap_cons, found, attempts,
                Bool.false_eq_true, if_false, absent, ih, List.nil_append,
                DirectiveQueue.attempts_cons_of_missing found]
  | _ => simp [singles]

theorem attempts_flatMap_singles (steps : List Step) :
    (steps.flatMap (·.singles host)).flatMap (·.attempts host) =
      steps.flatMap (·.attempts host) := by
  rw [List.flatMap_assoc]
  exact congrArg (steps.flatMap ·) (funext Step.attempts_singles)

theorem Step.IsRequest.singles {step : Step} (request : step.IsRequest) :
    ∀ single ∈ step.singles host, single.IsRequest := by
  intro single member
  cases request with
  | allow accessClass path =>
      rw [List.mem_singleton.mp member]
      exact .allow accessClass path
  | baseline baseline =>
      rw [List.mem_singleton.mp member]
      exact .baseline baseline
  | queue queue =>
      obtain ⟨directive, _, rfl⟩ := List.mem_map.mp member
      split
      · exact .allow directive.accessClass directive.path
      · exact .queue [directive]

theorem Step.isRequest_of_singles {step : Step} (host : Host)
    (requests : ∀ single ∈ step.singles host, single.IsRequest) : step.IsRequest := by
  cases step with
  | queue queue => exact .queue queue
  | _ => exact requests _ (List.mem_singleton_self _)

theorem requests_of_singles {steps others : List Step}
    (requests : ∀ step ∈ steps, step.IsRequest)
    (among : ∀ single ∈ others.flatMap (·.singles host),
      single ∈ steps.flatMap (·.singles host)) :
    ∀ step ∈ others, step.IsRequest := by
  intro step member
  refine Step.isRequest_of_singles host ?_
  intro single member'
  obtain ⟨origin, listed, part⟩ :=
    List.mem_flatMap.mp (among single (List.mem_flatMap.mpr ⟨step, member, member'⟩))
  exact (requests origin listed).singles single part

end Singles

section Fresh

variable {host : Host} {kernel : KernelVersion} (supported : kernel.isSupported = true)
  (creates : host.createError = none) (table : DescriptorTable) {steps others : List Step}
  (requests : ∀ step ∈ steps, step.IsRequest)
include supported creates requests

theorem grants_iff_attempts {path : Path} {right : Right} :
    (Session.mk host table (some (.forKernel kernel))).Grants steps path right ↔
      host.Accepts path ∧ ∃ mask : AccessMask,
        ⟨mask, path⟩ ∈ steps.flatMap (·.attempts host) ∧ mask.carries right = true := by
  have supported' : (Ruleset.forKernel kernel).isSupported = true := supported
  have made := (after_requests requests supported' host table).2
  have accepted := Ruleset.grants_allowEach (steps.flatMap (·.attempts host)) supported' rfl
    creates table
  rw [Grants, made, DescriptorTable.granted_iff_mem_grants]
  simp only [accepted, List.mem_filter, decide_eq_true_eq, Attempt.fault?_eq_none_iff]
  constructor
  · rintro ⟨mask, ⟨member, accepts⟩, carries⟩
    exact ⟨accepts, mask, member, carries⟩
  · rintro ⟨accepts, mask, member, carries⟩
    exact ⟨mask, ⟨member, accepts⟩, carries⟩

theorem grants_iff_requests {path : Path} {right : Right} :
    (Session.mk host table (some (.forKernel kernel))).Grants steps path right ↔
      host.Accepts path ∧ ∃ accessClass : AccessClass, accessClass.mask.carries right = true ∧
        ∃ step ∈ steps, step.Requests host accessClass path := by
  rw [grants_iff_attempts supported creates table requests]
  refine and_congr_right fun _ => ?_
  constructor
  · rintro ⟨mask, member, carries⟩
    obtain ⟨step, listed, attempted⟩ := List.mem_flatMap.mp member
    obtain ⟨accessClass, carries, requested⟩ :=
      (step.exists_attempt_iff host path right).mp ⟨mask, attempted, carries⟩
    exact ⟨accessClass, carries, step, listed, requested⟩
  · rintro ⟨accessClass, carries, step, listed, requested⟩
    obtain ⟨mask, attempted, carries⟩ :=
      (step.exists_attempt_iff host path right).mpr ⟨accessClass, carries, requested⟩
    exact ⟨mask, List.mem_flatMap.mpr ⟨step, listed, attempted⟩, carries⟩

/-- What is granted depends on which single requests are made, and on nothing else. -/
theorem sameGrants_of_singles
    (same : ∀ single, single ∈ steps.flatMap (·.singles host) ↔
      single ∈ others.flatMap (·.singles host)) :
    (Session.mk host table (some (.forKernel kernel))).SameGrants steps others := by
  have requests' := requests_of_singles requests fun single => (same single).mpr
  have attempted : ∀ attempt, attempt ∈ steps.flatMap (·.attempts host) ↔
      attempt ∈ others.flatMap (·.attempts host) := by
    intro attempt
    rw [← attempts_flatMap_singles steps, ← attempts_flatMap_singles others, List.mem_flatMap,
      List.mem_flatMap]
    simp only [same]
  intro path right
  rw [grants_iff_attempts supported creates table requests,
    grants_iff_attempts supported creates table requests']
  simp only [attempted]

/-- The order of the single requests does not matter. -/
theorem sameOutcome_of_singles
    (permuted : (steps.flatMap (·.singles host)).Perm (others.flatMap (·.singles host))) :
    (Session.mk host table (some (.forKernel kernel))).SameOutcome steps others := by
  have requests' := requests_of_singles requests fun single => permuted.mem_iff.mpr
  have attempted : (steps.flatMap (·.attempts host)).Perm (others.flatMap (·.attempts host)) := by
    rw [← attempts_flatMap_singles steps, ← attempts_flatMap_singles others]
    exact permuted.flatMap_right _
  have supported' : (Ruleset.forKernel kernel).isSupported = true := supported
  obtain ⟨left, descriptors⟩ :=
    Ruleset.run_allowEach_perm attempted supported' rfl creates table
  have reached : (Session.mk host table (some (.forKernel kernel))).after steps =
      (Session.mk host table (some (.forKernel kernel))).after others := by
    rw [(after_requests requests supported' host table).1,
      (after_requests requests' supported' host table).1, left, descriptors]
  -- The calls may differ, so the grants need an argument of their own.
  refine ⟨?_, ?_, ?_⟩
  · exact sameGrants_of_singles supported creates table requests fun single => permuted.mem_iff
  · rw [reached]
  · rw [reached]

end Fresh

end Session

/-- On a host that creates rulesets, requests on a fresh ruleset for a kernel that is
recent enough are united faithfully. -/
theorem requests_are_united (host : Host) (table : DescriptorTable) {kernel : KernelVersion}
    (supported : kernel.isSupported = true) (creates : host.createError = none)
    {steps : List Session.Step} (requests : ∀ step ∈ steps, step.IsRequest) :
    (Session.mk host table (some (.forKernel kernel))).Unites steps where
  grants_iff _ _ := Session.grants_iff_requests supported creates table requests
  one_owner := AccessClass.existsUnique_carries
  unrequested accessClass path unasked right carries granted := by
    obtain ⟨_, owner, carries', step, listed, requested⟩ :=
      (Session.grants_iff_requests supported creates table requests).mp granted
    -- A right that is granted has one owner only, and that is asked for.
    obtain rfl := (AccessClass.existsUnique_carries right).unique carries' carries
    exact unasked step listed requested
  permuted others permuted :=
    Session.sameOutcome_of_singles supported creates table requests (permuted.flatMap_right _)
  queue_permuted before queue other after split permuted := by
    refine Session.sameOutcome_of_singles supported creates table requests ?_
    simp only [split, List.flatMap_append, List.flatMap_cons, Session.Step.singles]
    exact ((permuted.map _).append_right _).append_left _
  repeated others same :=
    Session.sameGrants_of_singles supported creates table requests fun single => by
      simp only [List.mem_flatMap, same]
  queue_repeated before queue other after split same := by
    refine Session.sameGrants_of_singles supported creates table requests fun single => ?_
    simp only [split, List.flatMap_append, List.flatMap_cons, Session.Step.singles,
      List.mem_append, List.mem_map, same]
  regrouped others regrouped :=
    Session.sameOutcome_of_singles supported creates table requests regrouped

/-- A direct rule and a queue on a host that refuses nothing. -/
theorem requests_are_united_on_willing_host :
    let root := Path.ofString "/"
    let host := Host.willing [root]
    let kernel : KernelVersion := ⟨6, 5⟩
    let session : Session := ⟨host, [], some (.forKernel kernel)⟩
    let steps : List Session.Step := [.allow .read root, .queue [⟨.execute, root⟩]]
    kernel.isSupported = true ∧ host.createError = none ∧ (∀ step ∈ steps, step.IsRequest) ∧
      session.Grants steps root .execute ∧ ¬ session.Grants steps root .writeFile := by
  intro root host kernel session steps
  have requests : ∀ step ∈ steps, step.IsRequest := by
    intro step member
    rcases List.mem_pair.mp member with rfl | rfl
    · exact .allow .read root
    · exact .queue _
  have united := requests_are_united host [] (by decide : kernel.isSupported = true) rfl requests
  refine ⟨by decide, rfl, requests, ?_, ?_⟩
  · refine (united.grants_iff root .execute).mpr ⟨⟨by decide, by decide, by decide⟩, .execute,
      by decide, .queue [⟨.execute, root⟩], by simp [steps], ?_⟩
    exact .directive (List.mem_singleton_self _) (by decide)
  · refine united.unrequested .write root ?_ .writeFile (by decide)
    intro step member requested
    rcases List.mem_pair.mp member with rfl | rfl
    · cases requested
    · cases requested with
      | directive listed found => exact absurd listed (by simp)

end FileConfinement
