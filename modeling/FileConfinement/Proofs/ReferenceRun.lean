import FileConfinement.Proofs.ContextAttempts

/-!
# The reference run of a confinement

On a supported kernel a confinement is determined by the list of its attempts.
Nothing is called without attempts; a ruleset that cannot be created is asked for
once for each of them; and otherwise the blocks of the attempts stand between the
creation of the ruleset and the restriction, and every descriptor is closed.
-/

namespace FileConfinement

/-- The calls of a confinement by some attempts, on a host with some descriptors
open. -/
def referenceCalls (host : Host) (table : DescriptorTable) (attempts : List Attempt) :
    List Call :=
  if attempts = [] then
    []
  else
    match host.createError with
    | some errno => attempts.map fun _ => .createRuleset .handled (.refused errno)
    | none =>
        let ruleset := table.lowestFree
        let parent := (table.insert ruleset .ruleset).lowestFree
        .createRuleset .handled (.granted ruleset) ::
          attempts.flatMap (·.block host ruleset parent) ++
            (host.commitCalls ruleset ++ [.close ruleset])

/-- The answer of a confinement by some attempts. -/
def referenceAnswer (host : Host) (attempts : List Attempt) : Except Failure RestrictStatus :=
  if attempts = [] ∨ host.createError ≠ none then
    .ok .skipped
  else
    Ruleset.commitAnswer host

namespace Context

variable {host : Host} {kernel : KernelVersion}

theorem run_confine_of_supported (context : Context)
    (version : host.kernelVersion = .ok kernel) (supported : kernel.isSupported = true)
    (table : DescriptorTable) :
    (context.confine.run host table).value = referenceAnswer host (context.attempts host) ∧
      (context.confine.run host table).table = table ∧
      (context.confine.run host table).calls =
        referenceCalls host table (context.attempts host) := by
  obtain ⟨value, after, calls⟩ := context.run_confine_of_version host version table
  have fresh : (Ruleset.forKernel kernel).isSupported = true := supported
  obtain ⟨value', after', calls'⟩ := context.run_confineWith host fresh table
  simp only [value', after', calls'] at value after calls
  rw [value, after, calls]
  by_cases nothing : context.attempts host = []
  · rw [nothing, Ruleset.run_allowEach_nil, Ruleset.run_restrict_idle fresh rfl,
      Ruleset.run_discard]
    simp [referenceAnswer, referenceCalls, Ruleset.descriptor?, Ruleset.forKernel]
  cases creation : host.createError with
  | some errno =>
      rw [Ruleset.run_allowEach_refused _ fresh rfl creation,
        Ruleset.run_restrict_idle fresh rfl, Ruleset.run_discard]
      simp [referenceAnswer, referenceCalls, nothing, creation, Ruleset.descriptor?,
        Ruleset.forKernel]
  | none =>
      rw [Ruleset.run_allowEach_created nothing fresh rfl creation]
      obtain ⟨answer, closed, last⟩ := @Ruleset.run_restrict_discard host
        (table.insert table.lowestFree .ruleset)
        (((Ruleset.forKernel kernel).opened table.lowestFree).grown
          (Ruleset.addedBy (context.attempts host) host)) fresh table.lowestFree rfl
      refine ⟨?_, ?_, ?_⟩
      · simpa [referenceAnswer, nothing, creation] using answer
      · simpa using closed
      · simpa [referenceCalls, nothing, creation] using last

/-- The whole run of a confinement on a kernel that is recent enough: it makes the
calls of its attempts and no others, in one of three ways, and leaves the open
descriptors as they were. -/
theorem confine_makes_reference_run (context : Context) (table : DescriptorTable)
    (named : host.releaseError = none)
    (parsed : KernelVersion.ofRelease? host.releaseText = some kernel)
    (recent : 6 < kernel.major.toNat ∨ (kernel.major.toNat = 6 ∧ 1 ≤ kernel.minor.toNat)) :
    let attempts := context.attempts host
    let run := context.confine.run host table
    run.table = table ∧
      (attempts = [] → run.calls = [] ∧ run.value = .ok .skipped) ∧
      (∀ errno, attempts ≠ [] → host.createError = some errno →
        run.calls = (attempts.map fun _ => .createRuleset .handled (.refused errno)) ∧
          run.value = .ok .skipped) ∧
      (attempts ≠ [] → host.createError = none →
        ∃ ruleset parent, ruleset ∉ table.descriptors ∧ parent ∉ ruleset :: table.descriptors ∧
          run.calls = .createRuleset .handled (.granted ruleset) ::
            attempts.flatMap (·.block host ruleset parent) ++
              (host.commitCalls ruleset ++ [.close ruleset]) ∧
          run.value = Ruleset.commitAnswer host) := by
  have version : host.kernelVersion = .ok kernel := by
    simp [Host.kernelVersion, named, KernelVersion.ofRelease, parsed]
  have supported : kernel.isSupported = true := kernel.isSupported_iff.mpr recent
  obtain ⟨value, after, calls⟩ := context.run_confine_of_supported version supported table
  refine ⟨after, ?_, ?_, ?_⟩
  · intro nothing
    rw [calls, value, nothing]
    exact ⟨rfl, rfl⟩
  · intro errno something refused
    rw [calls, value]
    simp [referenceCalls, referenceAnswer, something, refused]
  · intro something granted
    refine ⟨table.lowestFree, (table.insert table.lowestFree .ruleset).lowestFree,
      table.lowestFree_notMem, ?_, ?_, ?_⟩
    · exact (table.insert table.lowestFree .ruleset).lowestFree_notMem
    · rw [calls]
      simp [referenceCalls, something, granted]
    · rw [value]
      simp [referenceAnswer, something, granted]

/-- Four directives: the path of the first is missing, that of the second cannot be opened, the
rule of the third is refused, and that of the last is added. -/
theorem confine_reference_run_of_four_directives :
    let missing := Path.ofString "/a"
    let locked := Path.ofString "/b"
    let unruly := Path.ofString "/c"
    let free := Path.ofString "/d"
    let host := { Host.willing [free] with
      files := [⟨locked, none, some ⟨13⟩, none, none⟩, ⟨unruly, none, none, some ⟨22⟩, none⟩,
        ⟨free, none, none, none, none⟩] }
    let context : Context := ⟨false, none, none, Path.ofString "/run",
      [⟨.read, missing⟩, ⟨.read, locked⟩, ⟨.write, unruly⟩, ⟨.execute, free⟩]⟩
    host.releaseError = none ∧ KernelVersion.ofRelease? host.releaseText = some ⟨6, 5⟩ ∧
      ∃ ruleset parent, (context.confine.run host []).calls =
        [.createRuleset .handled (.granted ruleset), .openPath locked (.refused ⟨13⟩),
          .openPath unruly (.granted parent),
          .addRule ruleset AccessClass.write.mask parent (.refused ⟨22⟩), .close parent,
          .openPath free (.granted parent),
          .addRule ruleset AccessClass.execute.mask parent (.granted ()), .close parent,
          .giveUpPrivileges (.granted ()), .restrict ruleset (.granted ()), .close ruleset] ∧
        (context.confine.run host []).value = .ok .enforced := by
  intro missing locked unruly free host context
  have parsed : KernelVersion.ofRelease? host.releaseText = some ⟨6, 5⟩ := by decide
  have attempts : context.attempts host = [⟨AccessClass.read.mask, locked⟩,
      ⟨AccessClass.write.mask, unruly⟩, ⟨AccessClass.execute.mask, free⟩] := by decide
  obtain ⟨_, _, _, created⟩ :=
    confine_makes_reference_run context [] rfl parsed (by decide)
  obtain ⟨ruleset, parent, _, _, calls, value⟩ := created (by simp [attempts]) rfl
  refine ⟨rfl, parsed, ruleset, parent, ?_, value⟩
  rw [calls, attempts]
  rfl

end Context
end FileConfinement
