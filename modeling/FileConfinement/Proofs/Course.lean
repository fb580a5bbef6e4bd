import FileConfinement.Proofs.ReferenceRun

/-!
# The courses of a confinement

A confinement takes one of five courses: the version of the kernel is unknown, the
kernel is too old, nothing is asked for, no ruleset can be created, or the rules are
carried to the restriction.  Its answer tells them apart as far as its caller needs:
it is a failure to commit exactly when a call of the restriction was refused, and a
success without the restriction only on the second to the fourth course.
-/

namespace FileConfinement

namespace Call

/-- Whether a call executes a program. -/
def executes : Call → Bool
  | execute _ _ _ => true
  | _ => false

/-- Whether a call is one of the two that put the rules in force, and was refused. -/
def refusesCommit : Call → Bool
  | giveUpPrivileges (.refused _) => true
  | restrict _ (.refused _) => true
  | _ => false

/-- Whether a call opens a path, adds a rule or closes a descriptor. -/
def insertsRule : Call → Bool
  | openPath _ _ => true
  | addRule _ _ _ _ => true
  | close _ => true
  | _ => false

theorem refusesCommit_of_insertsRule {call : Call} (inserts : call.insertsRule = true) :
    call.refusesCommit = false := by
  cases call <;> simp_all [insertsRule, refusesCommit]

theorem executes_of_insertsRule {call : Call} (inserts : call.insertsRule = true) :
    call.executes = false := by
  cases call <;> simp_all [insertsRule, executes]

end Call

theorem Attempt.insertsRule_of_mem_block {attempt : Attempt} {host : Host}
    {ruleset parent : Nat} {call : Call} (member : call ∈ attempt.block host ruleset parent) :
    call.insertsRule = true := by
  rw [block] at member
  split at member
  · exact absurd member List.not_mem_nil
  split at member
  · rw [List.mem_singleton.mp member]
    rfl
  · simp only [List.mem_cons, List.not_mem_nil, or_false] at member
    rcases member with rfl | rfl | rfl <;> rfl

theorem Host.kernelVersion_ne_commit {host : Host} {fault : IoFault} :
    host.kernelVersion ≠ .error (.commit fault) := by
  rw [kernelVersion]
  split
  · simp
  · rw [KernelVersion.ofRelease]
    split <;> simp

namespace Context

/-- The answer and the calls of a confinement on each of its courses. -/
inductive Course (context : Context) (host : Host) :
    Except Failure RestrictStatus → List Call → Prop where
  | unversioned {failure : Failure} (version : host.kernelVersion = .error failure) :
      Course context host (.error failure) []
  | old {kernel : KernelVersion} (version : host.kernelVersion = .ok kernel)
      (unsupported : kernel.isSupported = false) :
      Course context host (.ok .skipped) []
  | idle {kernel : KernelVersion} (version : host.kernelVersion = .ok kernel)
      (supported : kernel.isSupported = true) (nothing : context.attempts host = []) :
      Course context host (.ok .skipped) []
  | uncreated {kernel : KernelVersion} (version : host.kernelVersion = .ok kernel)
      (supported : kernel.isSupported = true) {errno : Errno}
      (refused : host.createError = some errno) :
      Course context host (.ok .skipped)
        ((context.attempts host).map fun _ => .createRuleset .handled (.refused errno))
  | carried {kernel : KernelVersion} (version : host.kernelVersion = .ok kernel)
      (supported : kernel.isSupported = true) (something : context.attempts host ≠ [])
      (granted : host.createError = none) (ruleset parent : Nat) :
      Course context host (Ruleset.commitAnswer host)
        (.createRuleset .handled (.granted ruleset) ::
          (context.attempts host).flatMap (·.block host ruleset parent) ++
            (host.commitCalls ruleset ++ [.close ruleset]))

/-- Every confinement takes one of the courses and leaves the open descriptors as they
were. -/
theorem confine_course (context : Context) (host : Host) (table : DescriptorTable) :
    (context.confine.run host table).table = table ∧
      context.Course host (context.confine.run host table).value
        (context.confine.run host table).calls := by
  cases version : host.kernelVersion with
  | error failure =>
      rw [context.run_confine_of_unversioned host version]
      exact ⟨rfl, .unversioned version⟩
  | ok kernel =>
      cases supported : kernel.isSupported with
      | false =>
          obtain ⟨value, after, calls⟩ := context.run_confine_of_version host version table
          have unsupported : (Ruleset.forKernel kernel).isSupported = false := supported
          have skipped := context.run_confineWith_unsupported host unsupported table
          rw [skipped] at value after calls
          rw [value, after, calls]
          exact ⟨rfl, .old version supported⟩
      | true =>
          obtain ⟨value, after, calls⟩ :=
            context.run_confine_of_supported version supported table
          refine ⟨after, ?_⟩
          rw [value, calls]
          by_cases nothing : context.attempts host = []
          · simpa [referenceAnswer, referenceCalls, nothing] using
              Course.idle version supported nothing
          cases creation : host.createError with
          | some errno =>
              simpa [referenceAnswer, referenceCalls, nothing, creation] using
                Course.uncreated version supported creation
          | none =>
              simpa [referenceAnswer, referenceCalls, nothing, creation] using
                Course.carried version supported nothing creation table.lowestFree
                  (table.insert table.lowestFree .ruleset).lowestFree

variable {context : Context} {host : Host} {answer : Except Failure RestrictStatus}
  {calls : List Call}

theorem mem_carried {ruleset parent : Nat} {call : Call}
    (member : call ∈ .createRuleset .handled (.granted ruleset) ::
      (context.attempts host).flatMap (·.block host ruleset parent) ++
        (host.commitCalls ruleset ++ [.close ruleset])) :
    call = .createRuleset .handled (.granted ruleset) ∨ call.insertsRule = true ∨
      call ∈ host.commitCalls ruleset := by
  simp only [List.cons_append, List.mem_cons, List.mem_append, List.mem_flatMap,
    List.not_mem_nil, or_false] at member
  rcases member with created | ⟨attempt, _, inserted⟩ | committed | closed
  · exact .inl created
  · exact .inr (.inl (Attempt.insertsRule_of_mem_block inserted))
  · exact .inr (.inr committed)
  · rw [closed]
    exact .inr (.inl rfl)

/-- Only the calls of the restriction can have a property that neither the creation nor
the insertion of a rule has. -/
theorem exists_carried_iff (context : Context) (host : Host) {property : Call → Prop}
    (creates : ∀ reply, ¬ property (.createRuleset .handled reply))
    (inserts : ∀ call : Call, call.insertsRule = true → ¬ property call)
    (ruleset parent : Nat) :
    (∃ call ∈ Call.createRuleset .handled (.granted ruleset) ::
        (context.attempts host).flatMap (·.block host ruleset parent) ++
          (host.commitCalls ruleset ++ [.close ruleset]), property call) ↔
      ∃ call ∈ host.commitCalls ruleset, property call := by
  constructor
  · rintro ⟨call, member, holds⟩
    rcases mem_carried member with rfl | inserting | commits
    · exact absurd holds (creates _)
    · exact absurd holds (inserts call inserting)
    · exact ⟨call, commits, holds⟩
  · rintro ⟨call, commits, holds⟩
    refine ⟨call, ?_, holds⟩
    simp only [List.mem_append]
    exact .inr (.inl commits)

theorem exists_refusal_iff (ruleset : Nat) :
    (∃ call ∈ host.commitCalls ruleset, call.refusesCommit = true) ↔
      ∃ fault, Ruleset.commitAnswer host = .error (.commit fault) := by
  simp only [Host.mem_commitCalls_iff, Ruleset.commitAnswer, Host.commitError?]
  cases host.privilegeError <;> cases host.restrictError <;>
    simp [Call.refusesCommit]

theorem exists_enforced_iff (ruleset : Nat) :
    (∃ call ∈ host.commitCalls ruleset, ∃ descriptor, call = .restrict descriptor (.granted ())) ↔
      Ruleset.commitAnswer host = .ok .enforced := by
  simp only [Host.mem_commitCalls_iff, Ruleset.commitAnswer, Host.commitError?]
  cases host.privilegeError <;> cases host.restrictError <;> simp

/-- A confinement executes nothing. -/
theorem Course.executes_eq_false (course : context.Course host answer calls) :
    ∀ call ∈ calls, call.executes = false := by
  intro call member
  cases course with
  | unversioned version => exact absurd member List.not_mem_nil
  | old version unsupported => exact absurd member List.not_mem_nil
  | idle version supported nothing => exact absurd member List.not_mem_nil
  | uncreated version supported refused =>
      obtain ⟨attempt, _, rfl⟩ := List.mem_map.mp member
      rfl
  | carried version supported something granted ruleset parent =>
      rcases mem_carried member with rfl | inserts | commits
      · rfl
      · exact Call.executes_of_insertsRule inserts
      · rcases Host.mem_commitCalls_iff.mp commits with rfl | ⟨_, rfl⟩ <;> rfl

theorem Course.execute_notMem (course : context.Course host answer calls) (program : String)
    (arguments : List String) (reply : Reply Unit) : .execute program arguments reply ∉ calls := by
  intro member
  exact Bool.noConfusion (course.executes_eq_false _ member)

/-- The answer is a failure to commit exactly when a call of the restriction was
refused. -/
theorem Course.refusal_iff (course : context.Course host answer calls) :
    (∃ call ∈ calls, call.refusesCommit = true) ↔ ∃ fault, answer = .error (.commit fault) := by
  cases course with
  | @unversioned failure version =>
      have cause : ∀ fault, failure ≠ .commit fault := by
        rintro fault rfl
        exact Host.kernelVersion_ne_commit version
      simp [cause]
  | old version unsupported => simp
  | idle version supported nothing => simp
  | uncreated version supported refused => simp [Call.refusesCommit]
  | carried version supported something granted ruleset parent =>
      rw [exists_carried_iff context host, exists_refusal_iff ruleset]
      · intro reply
        simp [Call.refusesCommit]
      · intro call inserts
        simp [Call.refusesCommit_of_insertsRule inserts]

/-- The restriction is in force exactly when the answer says so. -/
theorem Course.enforced_iff (course : context.Course host answer calls) :
    (∃ descriptor, .restrict descriptor (.granted ()) ∈ calls) ↔ answer = .ok .enforced := by
  cases course with
  | unversioned version => simp
  | old version unsupported => simp
  | idle version supported nothing => simp
  | uncreated version supported refused => simp
  | carried version supported something granted ruleset parent =>
      let enforces : Call → Prop := fun call =>
        ∃ descriptor, call = .restrict descriptor (.granted ())
      have creates : ∀ reply, ¬ enforces (.createRuleset .handled reply) := by
        rintro reply ⟨descriptor, same⟩
        exact Call.noConfusion same
      have inserts : ∀ call : Call, call.insertsRule = true → ¬ enforces call := by
        rintro call inserts ⟨descriptor, rfl⟩
        exact Bool.noConfusion inserts
      have whole := exists_carried_iff context host creates inserts ruleset parent
      rw [exists_enforced_iff ruleset] at whole
      rw [← whole]
      constructor
      · rintro ⟨descriptor, member⟩
        exact ⟨_, member, descriptor, rfl⟩
      · rintro ⟨_, member, descriptor, rfl⟩
        exact ⟨descriptor, member⟩

/-- A confinement that succeeds without the restriction found a kernel that is too old,
or created nothing: there was nothing to ask for or every creation was refused. -/
theorem Course.of_skipped (course : context.Course host (.ok .skipped) calls) :
    (∃ kernel, host.kernelVersion = .ok kernel ∧ kernel.isSupported = false) ∨
      (context.attempts host = [] ∨ host.createError ≠ none) ∧
        ∀ handled descriptor, .createRuleset handled (.granted descriptor) ∉ calls := by
  generalize same : (Except.ok RestrictStatus.skipped : Except Failure RestrictStatus) = answer
    at course
  cases course with
  | unversioned version => exact absurd same (by simp)
  | old version unsupported => exact .inl ⟨_, version, unsupported⟩
  | idle version supported nothing => exact .inr ⟨.inl nothing, by simp⟩
  | uncreated version supported refused => exact .inr ⟨.inr (by simp [refused]), by simp⟩
  | carried version supported something granted ruleset parent =>
      rw [Ruleset.commitAnswer] at same
      split at same <;> simp at same

/-- A confinement fails before it calls anything, for want of the kernel's version, or
it fails to commit. -/
theorem Course.of_failed {failure : Failure} (course : context.Course host (.error failure) calls) :
    host.kernelVersion = .error failure ∧ calls = [] ∨
      (∃ kernel, host.kernelVersion = .ok kernel) ∧ ∃ fault, failure = .commit fault := by
  generalize same : (Except.error failure : Except Failure RestrictStatus) = answer at course
  cases course with
  | unversioned version =>
      obtain rfl := Except.error.inj same
      exact .inl ⟨version, rfl⟩
  | old version unsupported => exact absurd same (by simp)
  | idle version supported nothing => exact absurd same (by simp)
  | uncreated version supported refused => exact absurd same (by simp)
  | carried version supported something granted ruleset parent =>
      rw [Ruleset.commitAnswer] at same
      split at same
      · obtain rfl := Except.error.inj same
        exact .inr ⟨⟨_, version⟩, _, rfl⟩
      · exact absurd same (by simp)

theorem Course.versioned {status : RestrictStatus}
    (course : context.Course host (.ok status) calls) :
    ∃ kernel, host.kernelVersion = .ok kernel := by
  generalize same : (Except.ok status : Except Failure RestrictStatus) = answer at course
  cases course with
  | unversioned version => exact absurd same (by simp)
  | old version unsupported => exact ⟨_, version⟩
  | idle version supported nothing => exact ⟨_, version⟩
  | uncreated version supported refused => exact ⟨_, version⟩
  | carried version supported something granted ruleset parent => exact ⟨_, version⟩

section Requested

variable {kernel : KernelVersion} (version : host.kernelVersion = .ok kernel)
  (supported : kernel.isSupported = true) (something : context.attempts host ≠ [])
include version supported something

/-- When something is asked for and no ruleset can be created, the confinement succeeds
without the restriction. -/
theorem Course.of_refused (course : context.Course host answer calls) {errno : Errno}
    (refused : host.createError = some errno) :
    answer = .ok .skipped ∧
      calls = (context.attempts host).map fun _ => .createRuleset .handled (.refused errno) := by
  cases course with
  | unversioned version' => simp [version] at version'
  | old version' unsupported =>
      obtain rfl := Except.ok.inj (version.symm.trans version')
      simp [supported] at unsupported
  | idle version' supported' nothing => exact absurd nothing something
  | uncreated version' supported' refused' =>
      obtain rfl := Option.some.inj (refused.symm.trans refused')
      exact ⟨rfl, rfl⟩
  | carried version' supported' something' granted ruleset parent =>
      simp [refused] at granted

/-- When something is asked for and a ruleset can be created, the answer is the one of
the restriction. -/
theorem Course.of_granted (course : context.Course host answer calls)
    (granted : host.createError = none) : answer = Ruleset.commitAnswer host := by
  cases course with
  | unversioned version' => simp [version] at version'
  | old version' unsupported =>
      obtain rfl := Except.ok.inj (version.symm.trans version')
      simp [supported] at unsupported
  | idle version' supported' nothing => exact absurd nothing something
  | uncreated version' supported' refused => simp [granted] at refused
  | carried version' supported' something' granted' ruleset parent => rfl

end Requested

end Context
end FileConfinement
