import FileConfinement.Proofs.ContextRoundTrip
import FileConfinement.Proofs.FileContents
import FileConfinement.Proofs.RunLine

/-!
# Options and configuration entries

What options ask for may as well stand in the configuration: a run with options does the same
as a run without them on a host whose configuration file holds the context that they amount
to.
-/

namespace FileConfinement
namespace Command

open Document

/-- The home directory that an option gives. -/
def Setting.home? : Setting → Option Path
  | .path .home value => some value
  | _ => none

/-- Whether an option says something that a configuration can say as well. -/
def Setting.isConfigurable : Setting → Bool
  | .plain .noBaseline | .path .home _ | .path (.grant _) _ => true
  | .plain .verbose | .plain .bestEffort | .path .config _ => false

/-- The options that stay on the command line when the others stand in the configuration. -/
def Occurrence.kept (occurrences : List Occurrence) : List Occurrence :=
  occurrences.filter fun occurrence => !occurrence.setting.isConfigurable

/-- A context in which options are entered: the baseline is turned off, the home directory is
replaced, and directives are added behind the rules. -/
def withOptions (context : Context) (given : List Setting) : Context :=
  { context with
    baseline := if .plain .noBaseline ∈ given then false else context.baseline
    home := (given.findSome? Setting.home?).or context.home
    rules := context.rules ++ given.filterMap Setting.directive? }

theorem Setting.home?_eq_some_iff {setting : Setting} {home : Path} :
    setting.home? = some home ↔ setting = .path .home home := by
  rcases setting with (_ | _ | _) | ⟨_ | _ | _, value⟩ <;> simp [home?]

namespace Occurrence

variable {occurrences : List Occurrence}

theorem mem_setting_kept_iff {setting : Setting} :
    setting ∈ (kept occurrences).map Occurrence.setting ↔
      setting ∈ occurrences.map Occurrence.setting ∧ setting.isConfigurable = false := by
  simp only [kept, List.mem_map, List.mem_filter, Bool.not_eq_true']
  constructor
  · rintro ⟨occurrence, ⟨member, other⟩, rfl⟩
    exact ⟨⟨occurrence, member, rfl⟩, other⟩
  · rintro ⟨⟨occurrence, member, rfl⟩, other⟩
    exact ⟨occurrence, ⟨member, other⟩, rfl⟩

theorem writable_kept (writable : ∀ occurrence ∈ occurrences, occurrence.Writable) :
    ∀ occurrence ∈ kept occurrences, occurrence.Writable :=
  fun occurrence member => writable occurrence (List.mem_of_mem_filter member)

theorem compatible_kept
    (compatible : (occurrences.map Occurrence.setting).Pairwise Setting.Compatible) :
    ((kept occurrences).map Occurrence.setting).Pairwise Setting.Compatible :=
  compatible.sublist (List.filter_sublist.map Occurrence.setting)

end Occurrence

namespace Settings

variable {settings : Settings} {given : List Setting}

theorem home_eq_findSome? (holds : ∀ setting, settings.Holds setting ↔ setting ∈ given) :
    settings.home = given.findSome? Setting.home? := by
  have held (home : Path) : settings.home = some home ↔ .path .home home ∈ given :=
    holds (.path .home home)
  cases found : given.findSome? Setting.home? with
  | none =>
      refine Option.eq_none_iff_forall_ne_some.mpr fun home isHome => ?_
      have absent := List.findSome?_eq_none_iff.mp found _ ((held home).mp isHome)
      simp [Setting.home?] at absent
  | some home =>
      obtain ⟨setting, member, isHome⟩ := List.exists_of_findSome?_eq_some found
      rw [Setting.home?_eq_some_iff.mp isHome] at member
      exact (held home).mpr member

/-- Options are entered into the context that was loaded. -/
theorem adjust_eq_withOptions (holds : ∀ setting, settings.Holds setting ↔ setting ∈ given)
    (grants : settings.grants = given.filterMap Setting.directive?) (context : Context) :
    settings.adjust context = withOptions context given := by
  have turnedOff : settings.noBaseline = decide (.plain .noBaseline ∈ given) :=
    Bool.eq_iff_iff.mpr ((holds (.plain .noBaseline)).trans decide_eq_true_iff.symm)
  rw [adjust, withOptions, home_eq_findSome? holds, grants, turnedOff]
  by_cases member : Setting.plain .noBaseline ∈ given <;> simp [member]

theorem says_nothing_of_not_configurable {setting : Setting}
    (other : setting.isConfigurable = false) :
    setting.home? = .none ∧ setting.directive? = .none := by
  rcases setting with (_ | _ | _) | ⟨_ | _ | _, value⟩ <;>
    first | exact ⟨rfl, rfl⟩ | exact Bool.noConfusion other

theorem withOptions_of_not_configurable (others : ∀ setting ∈ given, setting.isConfigurable = false)
    (context : Context) : withOptions context given = context := by
  have kept : Setting.plain .noBaseline ∉ given := fun member => Bool.noConfusion (others _ member)
  have noHome : given.findSome? Setting.home? = .none :=
    List.findSome?_eq_none_iff.mpr fun _ member =>
      (says_nothing_of_not_configurable (others _ member)).1
  have noDirective : given.filterMap Setting.directive? = [] :=
    List.filterMap_eq_nil_iff.mpr fun _ member =>
      (says_nothing_of_not_configurable (others _ member)).2
  simp [withOptions, kept, noHome, noDirective]

end Settings

/-- A context in which options are entered can be written and read back, if their paths can. -/
theorem isReadBack_withOptions {text : String} {context : Context} {given : List Setting}
    (accepted : Context.ofText text = .ok context)
    (homes : ∀ home, .path .home home ∈ given → ∃ text, home = .ofText text)
    (named : ∀ directive ∈ given.filterMap Setting.directive?, directive.path.IsLinePath)
    {layout : Layout} (blank : layout.IsBlank) :
    ∃ written, (withOptions context given).document? layout = some written ∧
      Context.ofText written = .ok (withOptions context given) := by
  obtain ⟨runtimeDirectory, home⟩ := Context.isWritable_of_ofText accepted
  have isWritable : (withOptions context given).IsWritable := by
    refine ⟨runtimeDirectory, fun path isHome => ?_⟩
    rcases Option.or_eq_some_iff.mp isHome with given' | ⟨_, kept⟩
    · obtain ⟨setting, member, isPath⟩ := List.exists_of_findSome?_eq_some given'
      rw [Setting.home?_eq_some_iff.mp isPath] at member
      exact homes path member
    · exact home path kept
  obtain ⟨written, isWritten⟩ := isWritable.exists_document? layout
  refine ⟨written, isWritten, (Context.ofText_document?_self_iff blank isWritten).mpr ?_⟩
  exact List.forall_mem_append.mpr ⟨Context.isLinePath_of_ofText accepted, named⟩

/-- The same file is loaded as contexts that options make equal, or cannot be read at all. -/
theorem load_store_eq {host : Host} {file : Path} {text written : String}
    {context entered : Context} (accepted : Context.ofText text = .ok context)
    (accepted' : Context.ofText written = .ok entered) {settings other : Settings}
    (same : settings.adjust context = other.adjust entered) :
    (Context.load (host.store file (Utf8.encode text.toList)) file).map settings.adjust =
      (Context.load (host.store file (Utf8.encode written.toList)) file).map other.adjust := by
  rcases host.readFile_store file with ⟨fault, refused⟩ | content
  · rw [Context.load_of_unreadable (refused _), Context.load_of_unreadable (refused _)]
    rfl
  · rw [Context.load_of_text (content _), Context.load_of_text (content _), accepted, accepted']
    exact congrArg Except.ok same

/-! ### Two runs -/

theorem run_loadContext_config {settings : Settings} {file : Path}
    (configured : settings.config = some file) (host : Host) (table : DescriptorTable) :
    (loadContext settings).run host table =
      ⟨(Context.load host file).map settings.adjust, table, [], [.loadingContext file]⟩ := by
  simp [loadContext, configured, Action.run_bind]

theorem ignoresContents_objection (settings : Settings) (result : Except Failure RestrictStatus) :
    (objection settings result).IgnoresContents := by
  unfold objection
  split
  · exact .bind (.report _) fun _ => .pure _
  · exact .bind (.report _) fun _ => .pure _
  · split
    · exact .bind (.report _) fun _ => .pure _
    · exact .pure _

theorem ignoresContents_executeProgram (program : String) (arguments : List String) :
    (executeProgram program arguments).IgnoresContents := by
  refine .bind (.report _) fun _ => .bind (.execute _ _) fun reply => ?_
  split <;> exact .pure _

/-- Two runs that load the same context do the same, if their hosts differ only in what files
contain. -/
theorem run_runProgram_eq {settings other : Settings} {file : Path} {host host' : Host}
    (configured : settings.config = some file) (configured' : other.config = some file)
    (sameEffort : settings.bestEffort = other.bestEffort)
    (sameContext : (Context.load host file).map settings.adjust =
      (Context.load host' file).map other.adjust)
    (sameHost : host.withoutContents = host'.withoutContents) (program : String)
    (arguments : List String) (table : DescriptorTable) :
    (runProgram settings program arguments).run host table =
      (runProgram other program arguments).run host' table := by
  have sameObjection : objection settings = objection other := by
    funext result
    simp only [objection, sameEffort]
  rw [runProgram, runProgram, sameObjection]
  refine Action.IgnoresContents.run_bind_eq (fun loaded => ?_) sameHost ?_
  · split
    · exact .pure _
    · rename_i context
      refine .bind (.report _) fun _ => .bind context.ignoresContents_confine fun result =>
        .bind (ignoresContents_objection other result) fun refused => ?_
      split
      · exact .pure _
      · exact ignoresContents_executeProgram program arguments
  · rw [run_loadContext_config configured, run_loadContext_config configured', sameContext]

/-- A run that is understood is carried out with its options; no other run is understood. -/
theorem main?_run {occurrences : List Occurrence}
    (writable : ∀ occurrence ∈ occurrences, occurrence.Writable) {settings : Settings}
    (amount : Settings.ofList? (occurrences.map Occurrence.setting) = some settings)
    (rest : List Word) (environment : Environment) (host : Host) :
    main? (Word.runCommand :: (occurrences.flatMap Occurrence.words ++ Word.separator :: rest))
        environment host =
      match Word.strings? rest with
      | some (program :: arguments) =>
          some (transcript (.ofEnvironment environment settings.verbose)
            ((runProgram settings program arguments).run host []))
      | _ => none := by
  rw [main?, Line.ofWords?_run,
    Line.ofScope?_run (Scope.scan_flatMap_words_separator rest writable) amount]
  rcases Word.strings? rest with _ | _ | ⟨program, arguments⟩ <;> rfl

/-- Options do what their entries in the configuration do: a run with a configuration file
does the same on a host where the options that the configuration can express stand in the
file. -/
theorem options_act_as_configuration {occurrences : List Occurrence} {file : Path}
    (writable : ∀ occurrence ∈ occurrences, occurrence.Writable)
    (compatible : (occurrences.map Occurrence.setting).Pairwise Setting.Compatible)
    (configured : .path .config file ∈ occurrences.map Occurrence.setting)
    (homes : ∀ home, .path .home home ∈ occurrences.map Occurrence.setting →
      ∃ text, home = .ofText text)
    (named : ∀ directive ∈ (occurrences.map Occurrence.setting).filterMap Setting.directive?,
      directive.path.IsLinePath)
    {text : String} {context : Context} (accepted : Context.ofText text = .ok context)
    (environment : Environment) (host : Host) (rest : List Word) :
    ∀ layout ∈ [Layout.compact, Layout.indented], ∃ written,
      (withOptions context (occurrences.map Occurrence.setting)).document? layout =
        some written ∧
      main? (Word.runCommand :: (occurrences.flatMap Occurrence.words ++ Word.separator :: rest))
          environment (host.store file (Utf8.encode text.toList)) =
        main? (Word.runCommand ::
            ((Occurrence.kept occurrences).flatMap Occurrence.words ++ Word.separator :: rest))
          environment (host.store file (Utf8.encode written.toList)) ∧
      ∀ program arguments, rest = (program :: arguments).map Word.ofString →
        (main? (Word.runCommand ::
            (occurrences.flatMap Occurrence.words ++ Word.separator :: rest))
          environment (host.store file (Utf8.encode text.toList))).isSome := by
  intro layout isLayout
  obtain ⟨written, isWritten, readBack⟩ :=
    isReadBack_withOptions accepted homes named (isBlank_of_mem isLayout)
  obtain ⟨settings, amount, grants, holds⟩ := Settings.ofList?_holds compatible
  obtain ⟨others, amount', grants', holds'⟩ :=
    Settings.ofList?_holds (Occurrence.compatible_kept compatible)
  -- What stays on the command line is asked for in both runs.
  have shared (setting : Setting) (other : setting.isConfigurable = false) :
      settings.Holds setting ↔ others.Holds setting := by
    rw [holds, holds', Occurrence.mem_setting_kept_iff, and_iff_left other]
  have sameContext : settings.adjust context =
      others.adjust (withOptions context (occurrences.map Occurrence.setting)) := by
    rw [Settings.adjust_eq_withOptions holds grants, Settings.adjust_eq_withOptions holds' grants',
      Settings.withOptions_of_not_configurable fun setting member =>
        (Occurrence.mem_setting_kept_iff.mp member).2]
  have sameVerbose : settings.verbose = others.verbose :=
    Bool.eq_iff_iff.mpr (shared (.plain .verbose) rfl)
  have sameEffort : settings.bestEffort = others.bestEffort :=
    Bool.eq_iff_iff.mpr (shared (.plain .bestEffort) rfl)
  have configured' : settings.config = some file := (holds (.path .config file)).mpr configured
  have configured'' : others.config = some file :=
    (shared (.path .config file) rfl).mp configured'
  have sameHost : (host.store file (Utf8.encode text.toList)).withoutContents =
      (host.store file (Utf8.encode written.toList)).withoutContents := by
    rw [Host.withoutContents_store, Host.withoutContents_store]
  refine ⟨written, isWritten, ?_, ?_⟩
  · rw [main?_run writable amount, main?_run (Occurrence.writable_kept writable) amount',
      sameVerbose]
    rcases Word.strings? rest with _ | _ | ⟨program, arguments⟩
    · rfl
    · rfl
    · simp only [run_runProgram_eq configured' configured'' sameEffort
        (load_store_eq accepted readBack sameContext) sameHost program arguments []]
  · rintro program arguments rfl
    rw [main?_run writable amount, Word.strings?_map_ofString]
    rfl

/-- A baseline turned off, a home and a directive move from the command line into the file. -/
theorem options_act_as_configuration_of_three :
    let occurrences : List Occurrence :=
      [.apart .config (Word.ofString "a.json"), .named .noBaseline,
        .joined .home (Word.ofString "/home/a"), .apart (.grant .write) (Word.ofString "/srv/a b"),
        .verboseLetter]
    let text := "\x7b\x7d"
    let words := ["--", "ls", "-l"].map Word.ofString
    let file := Path.ofString "a.json"
    let host := { Host.willing [] with files := [⟨file, none, none, none, none⟩] }
    let entered : Context :=
      { Context.default with
        baseline := false
        home := some (.ofString "/home/a")
        rules := [⟨.write, .ofString "/srv/a b"⟩] }
    (∀ occurrence ∈ occurrences, occurrence.Writable) ∧
      (occurrences.map Occurrence.setting).Pairwise Setting.Compatible ∧
      Context.ofText text = .ok .default ∧
      ∃ written transcript, entered.document? .compact = some written ∧
        main? (["run", "--config", "a.json", "--no-baseline", "--home=/home/a", "--write",
            "/srv/a b", "-v"].map Word.ofString ++ words) []
          (host.store file (Utf8.encode text.toList)) = some transcript ∧
        main? (["run", "--config", "a.json", "-v"].map Word.ofString ++ words) []
          (host.store file (Utf8.encode written.toList)) = some transcript := by
  intro occurrences text words file host entered
  have writable : ∀ occurrence ∈ occurrences, occurrence.Writable := by decide
  have compatible : (occurrences.map Occurrence.setting).Pairwise Setting.Compatible := by decide
  have accepted : Context.ofText text = .ok .default := by
    refine (Context.ofText_eq_ok_iff.trans Context.ofDocument_eq_ok_iff).mpr ⟨[], .inl ⟨?_, ?_⟩, ?_⟩
    · exact ⟨[], [], [], by decide, IsSpaces.nil, IsSpaces.nil, .done IsSpaces.nil⟩
    · exact List.nodup_nil
    · exact ⟨by simp, fun _ _ => rfl⟩
  have given : occurrences.map Occurrence.setting =
      [.path .config file, .plain .noBaseline, .path .home (.ofString "/home/a"),
        .path (.grant .write) (.ofString "/srv/a b"), .plain .verbose] := rfl
  have configured : .path .config file ∈ occurrences.map Occurrence.setting := by
    rw [given]
    exact List.mem_cons_self
  have homes : ∀ home, .path .home home ∈ occurrences.map Occurrence.setting →
      ∃ text, home = .ofText text := by
    intro home member
    obtain rfl : home = .ofString "/home/a" := by simpa [given] using member
    exact ⟨_, rfl⟩
  have named : ∀ directive ∈ (occurrences.map Occurrence.setting).filterMap Setting.directive?,
      directive.path.IsLinePath := by
    intro directive member
    obtain rfl : ⟨.write, .ofString "/srv/a b"⟩ = directive := by
      simpa [given, Setting.directive?] using member
    exact ⟨"/srv/a b".toList, rfl, by decide, by decide⟩
  obtain ⟨written, isWritten, same, understood⟩ :=
    options_act_as_configuration writable compatible configured homes named accepted [] host
      (["ls", "-l"].map Word.ofString) .compact (by simp)
  obtain ⟨transcript, run⟩ := Option.isSome_iff_exists.mp (understood "ls" ["-l"] rfl)
  exact ⟨writable, compatible, accepted, written, transcript, isWritten, run, same ▸ run⟩

end Command
end FileConfinement
