import FileConfinement.Command.Perform
import FileConfinement.Proofs.OptionWords
import Mathlib.Data.List.Induction

/-!
# The command line of a run

A run reads back whatever options it is given, in any order and spelling: every option has
its value, the directives keep their order, and the program and its arguments are taken
word by word, whether they look like options or not.
-/

namespace FileConfinement
namespace Command

/-- The option without its value. -/
def Setting.switch : Setting → Switch
  | .plain switch => .plain switch
  | .path switch _ => .path switch

/-- Whether an option may be given more than once: only those that ask for rules may. -/
def Switch.mayRepeat : Switch → Bool
  | .path (.grant _) => true
  | _ => false

/-- Two options that may stand on one command line. -/
def Setting.Compatible (first second : Setting) : Prop :=
  first.switch = second.switch → first.switch.mayRepeat = true

instance (first second : Setting) : Decidable (first.Compatible second) :=
  inferInstanceAs (Decidable (_ → _))

theorem Setting.grant_of_mayRepeat (setting : Setting)
    (repeats : setting.switch.mayRepeat = true) :
    ∃ accessClass value, setting = .path (.grant accessClass) value := by
  rcases setting with (_ | _ | _) | ⟨_ | _ | accessClass, value⟩
  case path.grant => exact ⟨accessClass, value, rfl⟩
  all_goals exact Bool.noConfusion repeats

theorem Setting.eq_of_directive? {setting : Setting} {directive : Directive}
    (asked : setting.directive? = some directive) :
    setting = .path (.grant directive.accessClass) directive.path := by
  rcases setting with (_ | _ | _) | ⟨_ | _ | accessClass, value⟩
  case path.grant => rw [← Option.some.inj asked]
  all_goals simp [directive?] at asked

namespace Settings

/-- An option is among those that settings amount to. -/
def Holds (settings : Settings) : Setting → Prop
  | .plain .verbose => settings.verbose = true
  | .plain .noBaseline => settings.noBaseline = true
  | .plain .bestEffort => settings.bestEffort = true
  | .path .config value => settings.config = some value
  | .path .home value => settings.home = some value
  | .path (.grant accessClass) value => ⟨accessClass, value⟩ ∈ settings.grants

/-- An option that is given once is not held before it is added. -/
theorem not_holds_of_compatible {settings : Settings} {setting other : Setting}
    (compatible : ∀ other, settings.Holds other → other.Compatible setting)
    (same : other.switch = setting.switch) (single : other.switch.mayRepeat = false) :
    ¬ settings.Holds other := by
  intro held
  have repeated := compatible other held same
  exact Bool.noConfusion (single.symm.trans repeated)

theorem add?_holds {settings : Settings} {setting : Setting}
    (compatible : ∀ other, settings.Holds other → other.Compatible setting) :
    ∃ more, settings.add? setting = some more ∧ ∀ other, other.switch.mayRepeat = false →
      (more.Holds other ↔ settings.Holds other ∨ other = setting) := by
  have fresh (other : Setting) (same : other.switch = setting.switch)
      (single : other.switch.mayRepeat = false) : ¬ settings.Holds other :=
    not_holds_of_compatible compatible same single
  rcases setting with (_ | _ | _) | ⟨_ | _ | _, value⟩
  · have unset : settings.verbose = false := by
      simpa [Holds] using fresh (.plain .verbose) rfl rfl
    refine ⟨{ settings with verbose := true }, by simp [add?, unset], ?_⟩
    rintro ((_ | _ | _) | ⟨_ | _ | _, other⟩) single <;> simp [Holds, unset]
  · have unset : settings.noBaseline = false := by
      simpa [Holds] using fresh (.plain .noBaseline) rfl rfl
    refine ⟨{ settings with noBaseline := true }, by simp [add?, unset], ?_⟩
    rintro ((_ | _ | _) | ⟨_ | _ | _, other⟩) single <;> simp [Holds, unset]
  · have unset : settings.bestEffort = false := by
      simpa [Holds] using fresh (.plain .bestEffort) rfl rfl
    refine ⟨{ settings with bestEffort := true }, by simp [add?, unset], ?_⟩
    rintro ((_ | _ | _) | ⟨_ | _ | _, other⟩) single <;> simp [Holds, unset]
  · have unset : settings.config = .none := by
      refine Option.eq_none_iff_forall_ne_some.mpr fun path given => ?_
      exact fresh (.path .config path) rfl rfl given
    refine ⟨{ settings with config := value }, by simp [add?, unset], ?_⟩
    rintro ((_ | _ | _) | ⟨_ | _ | _, other⟩) single <;> simp [Holds, unset]
    exact eq_comm
  · have unset : settings.home = .none := by
      refine Option.eq_none_iff_forall_ne_some.mpr fun path given => ?_
      exact fresh (.path .home path) rfl rfl given
    refine ⟨{ settings with home := value }, by simp [add?, unset], ?_⟩
    rintro ((_ | _ | _) | ⟨_ | _ | _, other⟩) single <;> simp [Holds, unset]
    exact eq_comm
  · refine ⟨settings, rfl, ?_⟩
    rintro other single
    refine (or_iff_left ?_).symm
    rintro rfl
    exact Bool.noConfusion single

theorem foldlM_add?_holds {list : List Setting} (compatible : list.Pairwise Setting.Compatible) :
    ∃ settings, list.foldlM add? none = some settings ∧
      ∀ setting, setting.switch.mayRepeat = false → (settings.Holds setting ↔ setting ∈ list) := by
  -- options are added at the end, to settings that hold those in front
  induction list using List.reverseRecOn with
  | nil =>
      refine ⟨none, rfl, ?_⟩
      rintro ((_ | _ | _) | ⟨_ | _ | _, value⟩) single <;> simp [Holds, none]
  | append_singleton list setting ih =>
      obtain ⟨compatible, _, last⟩ := List.pairwise_append.mp compatible
      obtain ⟨settings, added, holds⟩ := ih compatible
      have compatible' : ∀ other, settings.Holds other → other.Compatible setting := by
        intro other held
        cases repeats : other.switch.mayRepeat with
        | true => exact fun _ => repeats
        | false => exact last other ((holds other repeats).mp held) setting (by simp)
      obtain ⟨more, add, grown⟩ := add?_holds compatible'
      refine ⟨more, by simp [List.foldlM_append, added, add], fun other single => ?_⟩
      rw [grown other single, holds other single, List.mem_append, List.mem_singleton]

/-- Options that are compatible amount to settings that hold each of them, with the
directives in order. -/
theorem ofList?_holds {list : List Setting} (compatible : list.Pairwise Setting.Compatible) :
    ∃ settings, ofList? list = some settings ∧
      settings.grants = list.filterMap Setting.directive? ∧
      ∀ setting, settings.Holds setting ↔ setting ∈ list := by
  obtain ⟨settings, added, holds⟩ := foldlM_add?_holds compatible
  refine ⟨{ settings with grants := orderedDirectives list }, by simp [ofList?, added],
    orderedDirectives_eq list, fun setting => ?_⟩
  cases repeats : setting.switch.mayRepeat with
  | true =>
      obtain ⟨accessClass, value, rfl⟩ := setting.grant_of_mayRepeat repeats
      rw [Holds, orderedDirectives_eq, List.mem_filterMap]
      constructor
      · rintro ⟨other, member, asked⟩
        rwa [← Setting.eq_of_directive? asked]
      · exact fun member => ⟨_, member, rfl⟩
  | false =>
      rw [← holds setting repeats]
      rcases setting with (_ | _ | _) | ⟨_ | _ | _, value⟩
      case path.grant => exact absurd repeats (by simp [Setting.switch, Switch.mayRepeat])
      all_goals rfl

end Settings

namespace Word

/-- The word of the command that runs a program. -/
def runCommand : Word := ofString "run"

theorem strings?_map_ofString (strings : List String) :
    strings? (strings.map ofString) = some strings := by
  rw [strings?, List.mapM_map]
  induction strings with
  | nil => rfl
  | cons string strings ih => simp_all [ofString, Function.comp_def]

theorem head?_ofString {string : String} (undashed : string.toList.head? ≠ some '-') :
    (ofString string).head? ≠ some dash := by
  rw [ofString]
  cases spelled : string.toList with
  | nil => simp
  | cons first rest =>
      rw [spelled] at undashed
      rw [Utf8.encode_cons]
      rcases Utf8.encodeChar_cases first with ⟨byte, bytes, code, _⟩ |
          ⟨byte, bytes, bytes', completes, _⟩
      · rw [bytes, List.singleton_append, List.head?_cons]
        rintro ⟨rfl⟩
        refine undashed (congrArg some (Char.toNat_inj.mp ?_))
        exact code.symm
      · rw [bytes', List.cons_append, List.head?_cons]
        rintro ⟨rfl⟩
        rcases completes.cases with ⟨_, _, low, _⟩ | ⟨_, _, _, low, _⟩ | ⟨_, _, _, _, low, _⟩ <;>
          exact absurd low (by decide)

end Word

namespace Line

theorem ofWords?_run (words : List Word) :
    ofWords? (Word.runCommand :: words) = ofScope? .run Settings.none words := by
  have known : command? Word.runCommand = some .run := by decide
  rw [ofWords?, ofTop?, known]
  rfl

/-- What a run asks for, if the words behind its options are text and name a program. -/
theorem ofScope?_run {words rest : List Word} {given : List Setting} {settings : Settings}
    (scanned : Scope.run.scan none none words = ⟨given, .finished rest⟩)
    (amount : Settings.ofList? given = some settings) :
    ofScope? .run .none words = (Word.strings? rest).bind fun spelled =>
      (commandRequest? .run settings spelled).map fun request => ⟨settings.verbose, request⟩ := by
  simp only [ofScope?, scanned, amount]
  cases Word.strings? rest with
  | none => rfl
  | some spelled =>
      cases request : commandRequest? .run settings spelled <;> simp [request, Settings.none]

end Line

/-- There are as many directives as paths that were given for any class. -/
theorem length_directives (list : List Setting) :
    (list.filterMap Setting.directive?).length =
      (AccessClass.all.flatMap (PlacedDirective.pathsFor · list)).length := by
  induction list with
  | nil => rfl
  | cons setting list ih =>
      simp only [PlacedDirective.pathsFor, List.filterMap_cons, Setting.pathFor?_eq] at ih ⊢
      cases asked : setting.directive? with
      | none => simpa using ih
      | some directive =>
          rw [List.length_cons, ih]
          cases named : directive.accessClass <;>
            simp [AccessClass.all, Option.filter, named] <;> omega

/-- Every option of a run has its value, the directives stand in the order of their options,
one for each, and the program and its arguments are taken as they are. -/
theorem run_words_are_read_back {occurrences : List Occurrence}
    (writable : ∀ occurrence ∈ occurrences, occurrence.Writable)
    (compatible : (occurrences.map Occurrence.setting).Pairwise Setting.Compatible)
    (program : String) (arguments : List String) :
    ∃ settings : Settings,
      (∀ setting, settings.Holds setting ↔ setting ∈ occurrences.map Occurrence.setting) ∧
      settings.grants = (occurrences.map Occurrence.setting).filterMap Setting.directive? ∧
      settings.grants.length = (AccessClass.all.flatMap
        (PlacedDirective.pathsFor · (occurrences.map Occurrence.setting))).length ∧
      (∀ context, (settings.adjust context).rules =
        context.rules ++ (occurrences.map Occurrence.setting).filterMap Setting.directive?) ∧
      Line.ofWords? (Word.runCommand :: (occurrences.flatMap Occurrence.words ++
          Word.separator :: (program :: arguments).map Word.ofString)) =
        some ⟨settings.verbose, .run settings program arguments⟩ ∧
      ((∀ word ∈ program :: arguments.take 1, word.toList.head? ≠ some '-') →
        Line.ofWords? (Word.runCommand :: (occurrences.flatMap Occurrence.words ++
            (program :: arguments).map Word.ofString)) =
          some ⟨settings.verbose, .run settings program arguments⟩) := by
  obtain ⟨settings, amount, grants, holds⟩ := Settings.ofList?_holds compatible
  have spelled := Word.strings?_map_ofString (program :: arguments)
  refine ⟨settings, holds, grants, ?_, ?_, ?_, ?_⟩
  · rw [grants, length_directives]
  · intro context
    rw [← grants]
    rfl
  · rw [Line.ofWords?_run]
    rw [Line.ofScope?_run (Scope.scan_flatMap_words_separator _ writable) amount, spelled]
    rfl
  · intro undashed
    have scanned : Scope.run.scan none none (occurrences.flatMap Occurrence.words ++
        (program :: arguments).map Word.ofString) =
          ⟨occurrences.map Occurrence.setting,
            .finished ((program :: arguments).map Word.ofString)⟩ := by
      rw [Scope.scan_flatMap_words _ writable, List.map_cons, Scope.scan_program]
      · simp [Scan.prepend, Scan.ends]
      · simp [Word.ofString]
      · exact Word.head?_ofString (undashed program (by simp))
      · intro first member
        cases arguments with
        | nil => simp at member
        | cons argument arguments =>
            obtain rfl : Word.ofString argument = first := by simpa using member
            exact Word.head?_ofString (undashed argument (by simp))
    rw [Line.ofWords?_run, Line.ofScope?_run scanned amount, spelled]
    rfl

/-- Options in five spellings in front of a program whose arguments look like options. -/
theorem run_words_are_read_back_interleaved :
    let occurrences : List Occurrence :=
      [.apart (.grant .write) (Word.ofString "/srv"), .joined (.grant .read) (Word.ofString "/a=b"),
        .letterAttached (Word.ofString "f.json"), .named .bestEffort, .verboseLetter,
        .joined (.grant .write) (Word.ofString "-x")]
    let words := ["run", "--write", "/srv", "--read=/a=b", "-cf.json", "--best-effort", "-v",
      "--write=-x", "--", "ls", "--", "--read"].map Word.ofString
    (∀ occurrence ∈ occurrences, occurrence.Writable) ∧
      (occurrences.map Occurrence.setting).Pairwise Setting.Compatible ∧
      ∃ settings : Settings,
        settings.grants = [⟨.write, .ofString "/srv"⟩, ⟨.read, .ofString "/a=b"⟩,
          ⟨.write, .ofString "-x"⟩] ∧
        settings.config = some (.ofString "f.json") ∧ settings.bestEffort = true ∧
        settings.noBaseline = false ∧
        Line.ofWords? words = some ⟨true, .run settings "ls" ["--", "--read"]⟩ := by
  intro occurrences words
  have writable : ∀ occurrence ∈ occurrences, occurrence.Writable := by decide
  have compatible : (occurrences.map Occurrence.setting).Pairwise Setting.Compatible := by decide
  obtain ⟨settings, holds, grants, _, _, accepted, _⟩ :=
    run_words_are_read_back writable compatible "ls" ["--", "--read"]
  have verbose : settings.verbose = true := (holds (.plain .verbose)).mpr (by decide)
  rw [verbose] at accepted
  refine ⟨writable, compatible, settings, grants, ?_, ?_, ?_, accepted⟩
  · exact (holds (.path .config (.ofString "f.json"))).mpr (by decide)
  · exact (holds (.plain .bestEffort)).mpr (by decide)
  · exact eq_false_of_ne_true (mt (holds (.plain .noBaseline)).mp (by decide))

end Command
end FileConfinement
