import FileConfinement.Proofs.LogLine
import FileConfinement.Proofs.ProgramRun

/-!
# The list of baseline rules

The list of the baseline rules and a run of a program walk over the same rules, one to show
them and one to apply them, and each asks on its own whether a path exists.  The lines that
are not marked as missing tell of the attempts of a run that asks for nothing else, in order
and behind the one for the home directory.
-/

namespace FileConfinement

namespace Baseline

/-- No class grants the rights that are granted beneath the home directory. -/
theorem mask_ne_homeMask (accessClass : AccessClass) : accessClass.mask ≠ homeMask := by
  cases accessClass <;> decide

end Baseline

theorem Host.hasNul_of_pathExists {host : Host} {path : Path}
    (found : host.pathExists path = true) : path.hasNul = false := by
  rw [pathExists, Bool.and_eq_true, Bool.not_eq_true'] at found
  exact found.1

namespace Command

/-- The attempt of a rule that is listed. -/
def ListedRule.attempt (listed : ListedRule) : Attempt :=
  ⟨listed.rule.1.mask, listed.rule.2⟩

/-- The attempts that a list of baseline rules tells of: the one for the home directory, if
the list names it, and those of the rules that are not marked as missing. -/
def listedAttempts (home : Option Path) (rules : List ListedRule) : List Attempt :=
  (home.map fun home => ⟨Baseline.homeMask, home⟩).toList ++
    (rules.filter ListedRule.pathExists).map ListedRule.attempt

variable {home : Option Path} {rules : List ListedRule}

theorem head?_listedAttempts_iff {directory : Path} :
    (listedAttempts home rules).head? = some ⟨Baseline.homeMask, directory⟩ ↔
      home = some directory := by
  cases home with
  | some other => simp [listedAttempts]
  | none =>
      refine iff_of_false ?_ (by simp)
      intro first
      obtain ⟨listed, _, same⟩ := List.mem_map.mp (List.mem_of_mem_head? first)
      exact Baseline.mask_ne_homeMask listed.rule.1 (congrArg Attempt.mask same)

theorem forall_mask_ne_homeMask_iff :
    (∀ attempt ∈ listedAttempts home rules, attempt.mask ≠ Baseline.homeMask) ↔
      home = none := by
  constructor
  · intro other
    refine Option.eq_none_iff_forall_ne_some.mpr fun directory isHome => ?_
    have first := List.mem_of_mem_head? ((@head?_listedAttempts_iff home rules _).mpr isHome)
    exact other _ first rfl
  · rintro rfl attempt member
    obtain ⟨listed, _, rfl⟩ := List.mem_map.mp member
    exact Baseline.mask_ne_homeMask listed.rule.1

variable {host : Host}

/-- The baseline rules with the answers of a host whether their paths exist. -/
def listedOn (host : Host) (rules : List ClassRule) : List ListedRule :=
  rules.map fun rule => ⟨rule, host.pathExists rule.2⟩

theorem pathExists_of_mem_listedOn {rules : List ClassRule} {listed : ListedRule}
    (member : listed ∈ listedOn host rules) :
    listed.pathExists = host.pathExists listed.rule.2 := by
  obtain ⟨rule, _, rfl⟩ := List.mem_map.mp member
  rfl

/-- Showing which rules have a path and skipping those that have none agree. -/
theorem attempts_eq_listedAttempts (baseline : Baseline) (host : Host) :
    baseline.attempts host = listedAttempts baseline.home (listedOn host baseline.rules) := by
  have shown (rules : List ClassRule) : Attempt.existing host rules =
      ((listedOn host rules).filter ListedRule.pathExists).map ListedRule.attempt := by
    induction rules with
    | nil => rfl
    | cons rule rules ih =>
        cases found : host.pathExists rule.2 with
        | true => simp [Attempt.existing_cons_of_exists found, ih, listedOn, found,
            ListedRule.attempt]
        | false => simp [Attempt.existing_cons_of_missing found, ih, listedOn, found]
  rw [Baseline.attempts, listedAttempts, shown]

/-- The path of a marked rule is opened at most as the home directory. -/
theorem home_of_opened {rules : List ClassRule} {listed : ListedRule}
    (member : listed ∈ listedOn host rules) (missing : listed.pathExists = false)
    {attempt : Attempt} (among : attempt ∈ listedAttempts home (listedOn host rules))
    (path : attempt.path = listed.rule.2) : home = some listed.rule.2 := by
  rcases List.mem_append.mp among with first | later
  · obtain ⟨directory, rfl, rfl⟩ := Option.map_eq_some_iff.mp (Option.mem_toList.mp first)
    exact congrArg some path
  · obtain ⟨other, unmarked, rfl⟩ := List.mem_map.mp later
    obtain ⟨among', found⟩ := List.mem_filter.mp unmarked
    rw [pathExists_of_mem_listedOn among', show other.rule.2 = listed.rule.2 from path,
      ← pathExists_of_mem_listedOn member, missing] at found
    exact Bool.noConfusion found

/-- The context of a run that asks for nothing but a home directory. -/
def plainContext (home : Option Path) : Context :=
  { Context.default with home := home }

theorem run_listBaseline (home : Option Path) (host : Host) (table : DescriptorTable) :
    let baseline := (plainContext home).baselineOn host
    ((listBaseline home).run host table).value =
        .success (.baseline baseline.home (listedOn host baseline.rules)) ∧
      ((listBaseline home).run host table).calls = [] := by
  obtain ⟨value, _, silent⟩ := (plainContext home).run_baselineRules host table
  have asked : (plainContext home).baseline = true := rfl
  rw [asked, if_pos rfl] at value
  simp only [plainContext] at value silent ⊢
  simp [listBaseline, Action.run_bind, value, silent, listedOn]

theorem attempts_plainContext (home : Option Path) (host : Host) :
    let baseline := (plainContext home).baselineOn host
    (plainContext home).attempts host =
      listedAttempts baseline.home (listedOn host baseline.rules) := by
  intro baseline
  rw [← attempts_eq_listedAttempts]
  simp [baseline, Context.attempts, Context.baselineAttempts, plainContext, Context.default,
    DirectiveQueue.attempts, Attempt.existing]

theorem contextOn_eq_plainContext {settings : Settings} (unconfigured : settings.config = none)
    (baseline : settings.noBaseline = false) (undirected : settings.grants = [])
    (host : Host) : settings.contextOn host = .ok (plainContext settings.home) := by
  simp [Settings.contextOn, unconfigured, Settings.adjust, plainContext, Context.default,
    baseline, undirected]

/-! ### The text of the list -/

/-- The line for the home directory. -/
def homeLine (styled : Bool) : Option Path → String
  | some home => "  rw       " ++ home.display ++ "\n"
  | none => "  rw       " ++ wrapped styled "\x1b[33m" "(home unresolved)" ++ "\n"

/-- The word for a class, filled up to eight characters. -/
def classColumn : AccessClass → String
  | .read => "read    "
  | .write => "write   "
  | .special => "special "
  | .execute => "execute "

/-- The line of a rule, with a mark if its path is missing. -/
def ruleLine (styled : Bool) (listed : ListedRule) : String :=
  "  " ++ classColumn listed.rule.1 ++ " " ++ listed.rule.2.display ++
    wrapped styled "\x1b[2m" (if listed.pathExists then "" else " (missing, skipped)") ++ "\n"

def listText (styled : Bool) (home : Option Path) (rules : List ListedRule) : String :=
  "Baseline Landlock rules:\n\n" ++ homeLine styled home ++
    String.join (rules.map (ruleLine styled))

theorem renderAll_listedRule (styled : Bool) (listed : ListedRule) :
    Span.renderAll styled listed.spans = ruleLine styled listed := by
  have column : listColumn listed.rule.1.name = "  " ++ classColumn listed.rule.1 ++ " " := by
    cases listed.rule.1 <;> decide
  have mark := @render_eq_wrapped .dim "\x1b[2m" (by decide) (by decide) styled
  simp only [ListedRule.spans, Span.renderAll_cons, Span.render_plain, Span.renderAll_nil,
    mark, column, ruleLine, String.append_assoc, String.append_empty]

theorem renderAll_listedRules (styled : Bool) (rules : List ListedRule) :
    Span.renderAll styled (rules.flatMap ListedRule.spans) =
      String.join (rules.map (ruleLine styled)) := by
  induction rules with
  | nil => rfl
  | cons listed rules ih =>
      rw [List.flatMap_cons, Span.renderAll_append, ih, renderAll_listedRule, List.map_cons,
        String.join_cons]

theorem renderAll_baseline (styled : Bool) (home : Option Path) (rules : List ListedRule) :
    Span.renderAll styled (Output.baseline home rules).spans = listText styled home rules := by
  have column : listColumn "rw" = "  rw       " := by decide
  have unresolved :=
    @render_eq_wrapped (.colored .yellow) "\x1b[33m" (by decide) (by decide) styled
  -- Both kinds of homes stand in the same place of the same line.
  have whole (title : String) (shown : Span) :
      Span.renderAll styled ([.plain (title ++ listColumn "rw"), shown, .plain "\n"] ++
        rules.flatMap ListedRule.spans) =
      title ++ ("  rw       " ++ shown.render styled ++ "\n") ++
        String.join (rules.map (ruleLine styled)) := by
    rw [Span.renderAll_append, renderAll_listedRules, column]
    simp only [Span.renderAll_cons, Span.render_plain, Span.renderAll_nil, String.append_assoc,
      String.append_empty]
  cases home with
  | none => exact (whole _ _).trans (by rw [unresolved]; rfl)
  | some home => exact (whole _ _).trans (by rw [Span.render_plain]; rfl)

/-! ### The list and the run -/

/-- Calls that hold the blocks of some attempts at a new ruleset, and open no path and add no
rule besides. -/
def MakeAttempts (calls : List Call) (host : Host) (attempts : List Attempt) : Prop :=
  ∃ before ruleset parent after,
    calls = before ++ attempts.flatMap (·.block host ruleset parent) ++ after ∧
    (attempts ≠ [] → before = [.createRuleset .handled (.granted ruleset)]) ∧
    ∀ call ∈ before ++ after, (∀ path reply, call ≠ .openPath path reply) ∧
      ∀ descriptor mask parent reply, call ≠ .addRule descriptor mask parent reply

theorem MakeAttempts.exists_of_opened {calls : List Call} {attempts : List Attempt}
    (made : MakeAttempts calls host attempts) {path : Path} {reply : Reply Nat}
    (opened : .openPath path reply ∈ calls) : ∃ attempt ∈ attempts, attempt.path = path := by
  obtain ⟨before, ruleset, parent, after, rfl, _, others⟩ := made
  rw [List.append_assoc, List.mem_append, List.mem_append] at opened
  have none : .openPath path reply ∉ before ++ after := fun member =>
    (others _ member).1 path reply rfl
  rcases opened with first | within | last
  · exact absurd (List.mem_append_left after first) none
  · obtain ⟨attempt, among, opens⟩ := List.mem_flatMap.mp within
    exact ⟨attempt, among, Attempt.path_of_mem_block opens⟩
  · exact absurd (List.mem_append_right before last) none

theorem makeAttempts_runProgram {settings : Settings} {context : Context}
    {kernel : KernelVersion} (loaded : settings.contextOn host = .ok context)
    (version : host.kernelVersion = .ok kernel) (supported : kernel.isSupported = true)
    (granted : host.createError = none) (program : String) (arguments : List String)
    (table : DescriptorTable) :
    MakeAttempts ((runProgram settings program arguments).run host table).calls host
      (context.attempts host) := by
  obtain ⟨_, _, calls⟩ := context.run_confine_of_supported version supported table
  rw [calls_runProgram_loaded loaded, calls]
  generalize executed : (if settings.accepts (context.confine.run host table).value then _ else _)
    = last
  have other : ∀ call ∈ last, ∃ reply, call = .execute program arguments reply := by
    intro call member
    rw [← executed] at member
    split at member
    · exact ⟨_, List.mem_singleton.mp member⟩
    · exact absurd member List.not_mem_nil
  by_cases nothing : context.attempts host = []
  · -- No ruleset is created, so that any numbers do for the descriptors.
    refine ⟨[], 0, 0, last, ?_, fun something => absurd nothing something, ?_⟩
    · simp [referenceCalls, nothing]
    · intro call member
      obtain ⟨reply, rfl⟩ := other call member
      simp
  · refine ⟨[_], table.lowestFree, (table.insert table.lowestFree .ruleset).lowestFree,
      host.commitCalls table.lowestFree ++ [.close table.lowestFree] ++ last, ?_,
      fun _ => rfl, ?_⟩
    · simp [referenceCalls, nothing, granted]
    · intro call member
      simp only [List.mem_append, List.mem_singleton, Host.mem_commitCalls_iff] at member
      rcases member with rfl | ((rfl | ⟨_, rfl⟩) | rfl) | executes
      · simp
      · simp
      · simp
      · simp
      · obtain ⟨reply, rfl⟩ := other call executes
        simp

/-- On a host with a supported kernel that can create rulesets, the list of baseline rules
always succeeds without a call, and its lines tell of the attempts of a run without
configuration and directives: that at the home directory comes first if the list names one,
and then every line that is not marked as missing stands for one attempt with the mask of
its class. -/
theorem baseline_lists_attempts_of_run (environment environment' : Environment) (host : Host)
    {kernel : KernelVersion} {listWords runWords : List Word} {verbose verbose' : Bool}
    {settings : Settings} {program : String} {arguments : List String}
    (named : host.releaseError = none)
    (parsed : KernelVersion.ofRelease? host.releaseText = some kernel)
    (recent : 6 < kernel.major.toNat ∨ (kernel.major.toNat = 6 ∧ 1 ≤ kernel.minor.toNat))
    (granted : host.createError = none)
    (lists : Line.ofWords? listWords = some ⟨verbose, .baseline settings.home⟩)
    (runs : Line.ofWords? runWords = some ⟨verbose', .run settings program arguments⟩)
    (unconfigured : settings.config = none) (baseline : settings.noBaseline = false)
    (undirected : settings.grants = []) :
    ∃ (home : Option Path) (rules : List ListedRule) (listing execution : Transcript),
      main? listWords environment host = some listing ∧
      main? runWords environment' host = some execution ∧
      listing.exitCode = 0 ∧ listing.calls = [] ∧
      listing.output = listText (Presentation.asksForStyles environment) home rules ∧
      MakeAttempts execution.calls host (listedAttempts home rules) ∧
      (∀ listed ∈ rules, listed.pathExists = true → ∀ ruleset parent,
        (∀ errno, host.openError? listed.rule.2 = some errno →
          listed.attempt.block host ruleset parent =
            [.openPath listed.rule.2 (.refused errno)]) ∧
        (host.openError? listed.rule.2 = none →
          ∃ reply, listed.attempt.block host ruleset parent =
            [.openPath listed.rule.2 (.granted parent),
              .addRule ruleset listed.rule.1.mask parent reply, .close parent])) ∧
      (∀ listed ∈ rules, listed.pathExists = false →
        ∀ reply, .openPath listed.rule.2 reply ∈ execution.calls → home = some listed.rule.2) ∧
      (∀ directory, home = some directory ↔
        (listedAttempts home rules).head? = some ⟨Baseline.homeMask, directory⟩) ∧
      (home = none ↔
        ∀ attempt ∈ listedAttempts home rules, attempt.mask ≠ Baseline.homeMask) := by
  have version : host.kernelVersion = .ok kernel :=
    Host.kernelVersion_eq_ok_iff.mpr ⟨named, parsed⟩
  have supported : kernel.isSupported = true := kernel.isSupported_iff.mpr recent
  have loaded := contextOn_eq_plainContext unconfigured baseline undirected host
  have made := makeAttempts_runProgram loaded version supported granted program arguments []
  obtain ⟨shown, silent⟩ := run_listBaseline settings.home host []
  rw [attempts_plainContext] at made
  -- Both walks go over the same baseline, so where it comes from no longer matters.
  generalize (plainContext settings.home).baselineOn host = listed at made shown
  refine ⟨listed.home, listedOn host listed.rules, _, _, main?_of_ofWords? lists environment host,
    main?_of_ofWords? runs environment' host, ?_, silent, ?_, made, ?_, ?_,
    fun _ => head?_listedAttempts_iff.symm, forall_mask_ne_homeMask_iff.symm⟩
  · simp [Line.perform, Request.perform, transcript, shown, Report.success]
  · rw [← renderAll_baseline]
    simp only [Line.perform, Request.perform, transcript, shown, Report.success]
    rfl
  · intro rule member found ruleset parent
    rw [pathExists_of_mem_listedOn member] at found
    have nonzero : rule.attempt.path.hasNul = false := Host.hasNul_of_pathExists found
    exact ⟨fun _ refused => Attempt.block_of_refused nonzero refused,
      fun granted => ⟨_, Attempt.block_of_granted nonzero granted⟩⟩
  · intro rule member missing reply opened
    obtain ⟨attempt, among, path⟩ := made.exists_of_opened opened
    exact home_of_opened member missing among path

/-- The two command lines on a host that has a root directory and a home. -/
theorem baseline_lists_attempts_on_willing_host :
    let home := Path.ofString "/home/a"
    let host := Host.willing [.ofString "/", home]
    let settings := { Settings.none with home := home }
    let listWords := ["baseline", "--home", "/home/a"].map Word.ofString
    let runWords := ["run", "--home", "/home/a", "--", "ls"].map Word.ofString
    Line.ofWords? listWords = some ⟨false, .baseline home⟩ ∧
      Line.ofWords? runWords = some ⟨false, .run settings "ls" []⟩ ∧
      ∃ shown rules listing execution,
        main? listWords [] host = some listing ∧ main? runWords [] host = some execution ∧
        listing.exitCode = 0 ∧ listing.output = listText false shown rules ∧
        MakeAttempts execution.calls host (listedAttempts shown rules) := by
  intro home host settings listWords runWords
  have parsed : KernelVersion.ofRelease? host.releaseText = some ⟨6, 5⟩ := by decide
  have lists : Line.ofWords? listWords = some ⟨false, .baseline settings.home⟩ := by decide
  have runs : Line.ofWords? runWords = some ⟨false, .run settings "ls" []⟩ := by decide
  obtain ⟨shown, rules, listing, execution, performed, performed', succeeds, _, output, made, _⟩ :=
    baseline_lists_attempts_of_run [] [] host rfl parsed (by decide) rfl lists runs rfl rfl rfl
  exact ⟨lists, runs, shown, rules, listing, execution, performed, performed', succeeds, output,
    made⟩

end Command
end FileConfinement
