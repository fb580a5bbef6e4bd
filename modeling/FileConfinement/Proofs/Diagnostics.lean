import FileConfinement.Proofs.EventFilter
import FileConfinement.Proofs.LogLine
import FileConfinement.Proofs.OptionWords
import FileConfinement.Proofs.ProgramRun

/-!
# Diagnostics

A run may be asked to tell more or less of what it does, and to tell it in style.  Neither
changes what it does.  The lines of events that are shown are always taken from the same
events, by a threshold or by a filter, and styles are wrapped around fixed words; but asking
for styles also keeps the control functions in the lines of events, which are removed from
them otherwise.
-/

namespace FileConfinement
namespace Command

/-! ### The option for verbosity -/

namespace Line

/-- Of the options in front of a command only the one for verbosity counts. -/
theorem ofScope?_eq_map (scope : Scope) (top : Settings) (words : List Word) :
    ofScope? scope top words =
      (ofScope? scope .none words).map fun line =>
        ⟨top.verbose || line.verbose, line.request⟩ := by
  simp only [ofScope?, Settings.none, Bool.false_or]
  cases Settings.ofList? (scope.scan .none .none words).settings with
  | none => rfl
  | some settings =>
      cases (scope.scan .none .none words).ending with
      | refused => rfl
      | stopped stop => rfl
      | finished rest =>
          cases spelled : Word.strings? rest with
          | none => simp [spelled]
          | some strings =>
              cases request : commandRequest? scope settings strings <;>
                simp [spelled, request]

theorem ofTop?_command {command : Word} {scope : Scope} (named : command? command = some scope)
    (met : List Setting) (rest : List Word) :
    ofTop? met (command :: rest) =
      (Settings.ofList? met).bind fun settings => ofScope? scope settings rest := by
  rw [ofTop?, named]
  rfl

/-- The option for verbosity in front of a command changes nothing else. -/
theorem ofWords?_verbose {command : Word} {scope : Scope}
    (named : command? command = some scope) (rest : List Word) :
    ofWords? (Word.verboseLetter :: command :: rest) =
      (ofWords? (command :: rest)).map fun line => { line with verbose := true } := by
  have met : ofTop? [] (Word.verboseLetter :: command :: rest) =
      ofTop? [.plain .verbose] (command :: rest) := by
    have unnamed : command? Word.verboseLetter = none := by decide
    have help : Word.verboseLetter ≠ helpCommand := by decide
    have separator : Word.verboseLetter ≠ Word.separator := by decide
    have read : Scope.top.readWord false Word.verboseLetter =
        .settings [.plain .verbose] none := by decide
    rw [ofTop?, unnamed]
    simp only [help, separator, read, if_false, List.nil_append]
  have quiet : Settings.ofList? [] = some .none := rfl
  have verbose : Settings.ofList? [.plain .verbose] = some { Settings.none with verbose := true } :=
    rfl
  simp only [ofWords?, met, ofTop?_command named, quiet, verbose, Option.bind_some]
  rw [ofScope?_eq_map]
  rfl

end Line

/-! ### Asking for diagnostics -/

/-- What a run may be asked to tell besides its command line and its environment: more by the
option in front of the command, the events up to a level by the variable for the filter, and
everything in style by the variable for styles. -/
structure Diagnostics where
  verbose : Bool
  /-- The name of a threshold and what it names. -/
  level : Option (String × Threshold)
  styled : Bool

namespace Diagnostics

/-- The name is one of a threshold, and of the right one. -/
def IsNamed (asked : Diagnostics) : Prop :=
  ∀ named ∈ asked.level, Threshold.ofWord? named.1.toList = some named.2

def words (asked : Diagnostics) (words : List Word) : List Word :=
  if asked.verbose then Word.verboseLetter :: words else words

/-- An environment in which styles may be asked for. -/
def styleEnvironment (styled : Bool) (environment : Environment) : Environment :=
  if styled then (Presentation.styleVariable, "1") :: environment else environment

def environment (asked : Diagnostics) (environment : Environment) : Environment :=
  (asked.level.map fun named => (Presentation.filterVariable, named.1)).toList ++
    styleEnvironment asked.styled environment

/-- The threshold that counts: the one that the variable for the filter names, else the one of
the option for verbosity, which may stand in front of the command or behind it.  There is none
if the variable has a value that is no name. -/
def threshold? (asked : Diagnostics) (environment : Environment) (verbose : Bool) :
    Option Threshold :=
  match asked.level with
  | some named => some named.2
  | none =>
      match environment.lookup Presentation.filterVariable with
      | some value => Threshold.ofWord? value.toList
      | none => some (if asked.verbose || verbose then some .debug else some .warning)

end Diagnostics

namespace Diagnostics

theorem lookup_cons_of_ne {name other : String} (different : name ≠ other) (value : String)
    (environment : Environment) :
    List.lookup name ((other, value) :: environment) = environment.lookup name := by
  rw [List.lookup_cons, beq_eq_false_iff_ne.mpr different]

variable (asked : Diagnostics) (environment : Environment)

theorem lookup_environment {name : String} (other : name ≠ Presentation.filterVariable) :
    (asked.environment environment).lookup name =
      (styleEnvironment asked.styled environment).lookup name := by
  rw [Diagnostics.environment]
  cases asked.level with
  | none => rfl
  | some named => exact lookup_cons_of_ne other _ _

theorem lookup_styleEnvironment {name : String} (other : name ≠ Presentation.styleVariable)
    (styled : Bool) :
    (styleEnvironment styled environment).lookup name = environment.lookup name := by
  cases styled with
  | false => rfl
  | true => exact lookup_cons_of_ne other _ _

theorem lookup_filterVariable_of_none (silent : asked.level = none) :
    (asked.environment environment).lookup Presentation.filterVariable =
      environment.lookup Presentation.filterVariable := by
  rw [Diagnostics.environment, silent]
  exact lookup_styleEnvironment environment (by decide) asked.styled

theorem filterOf_of_threshold? (named : asked.IsNamed) {verbose : Bool} {threshold : Threshold}
    (counts : asked.threshold? environment verbose = some threshold) :
    Presentation.filterOf (asked.environment environment) (asked.verbose || verbose) =
      .ofThreshold threshold := by
  rw [threshold?] at counts
  cases level : asked.level with
  | some pair =>
      rw [level] at counts
      obtain rfl := Option.some.inj counts
      have read := EventFilter.ofValue?_of_ofWord? (named pair level)
      simp [Presentation.filterOf, Diagnostics.environment, level, read]
  | none =>
      rw [level] at counts
      rw [Presentation.filterOf, lookup_filterVariable_of_none asked environment level]
      cases found : environment.lookup Presentation.filterVariable with
      | none =>
          rw [found] at counts
          exact congrArg EventFilter.ofThreshold (Option.some.inj counts)
      | some value =>
          rw [found] at counts
          simp [EventFilter.ofValue?_of_ofWord? counts]

theorem filterOf_of_value (silent : asked.level = none) (verbose : Bool) {value : String}
    (found : environment.lookup Presentation.filterVariable = some value)
    {filter : EventFilter} (read : EventFilter.ofValue? value = some filter) :
    Presentation.filterOf (asked.environment environment) verbose = filter := by
  rw [Presentation.filterOf, lookup_filterVariable_of_none asked environment silent, found]
  simp [read]

theorem asksForStyles_environment :
    Presentation.asksForStyles (asked.environment environment) =
      (asked.styled || Presentation.asksForStyles environment) := by
  rw [Presentation.asksForStyles, lookup_environment asked environment (by decide)]
  cases asked.styled with
  | false => rfl
  | true => rfl

theorem allowsControls_environment :
    Presentation.allowsControls (asked.environment environment) =
      Presentation.allowsControls (styleEnvironment asked.styled environment) := by
  simp only [Presentation.allowsControls, Presentation.isFilled]
  rw [lookup_environment asked environment (by decide),
    lookup_environment asked environment (by decide),
    lookup_environment asked environment (by decide)]

/-- Asking for styles does not make control functions be removed. -/
theorem allowsControls_styleEnvironment (styled : Bool)
    (allowed : Presentation.allowsControls environment = true) :
    Presentation.allowsControls (styleEnvironment styled environment) = true := by
  cases styled with
  | false => exact allowed
  | true =>
      have events := lookup_styleEnvironment environment
        (show Presentation.eventStyleVariable ≠ Presentation.styleVariable by decide) true
      have plain := lookup_styleEnvironment environment
        (show Presentation.plainVariable ≠ Presentation.styleVariable by decide) true
      have filled : Presentation.isFilled (styleEnvironment true environment)
          Presentation.styleVariable = true := rfl
      rw [Presentation.allowsControls] at allowed ⊢
      rw [events, filled, Presentation.isFilled, plain, Bool.true_and]
      split at allowed
      · rfl
      · exact absurd allowed Bool.false_ne_true
      · exact (Bool.and_eq_true_iff.mp allowed).2

end Diagnostics

/-- The texts that are shown in style when styles are asked for, besides the names of levels
and the label of errors. -/
def styledNotes : List String :=
  ["Landlock confinement available",
    "Landlock confinement unavailable, programs will run unconfined", "(home unresolved)", "",
    " (missing, skipped)"]

theorem plain_or_mem_styledNotes {output : Output} {span : Span}
    (member : span ∈ output.spans) : span.style = .plain ∨ span.text ∈ styledNotes := by
  cases output with
  | nothing => exact absurd member List.not_mem_nil
  | usage =>
      rw [List.mem_singleton.mp member]
      exact .inl rfl
  | version =>
      rw [List.mem_singleton.mp member]
      exact .inl rfl
  | support found =>
      simp only [Output.spans, List.mem_cons, List.not_mem_nil, or_false] at member
      rcases member with rfl | rfl | rfl
      · exact .inl rfl
      · right
        split <;> simp [styledNotes]
      · exact .inl rfl
  | baseline home rules =>
      simp only [Output.spans, List.mem_append, List.mem_cons, List.not_mem_nil, or_false,
        List.mem_flatMap] at member
      rcases member with (rfl | rfl | rfl) | ⟨listed, _, member⟩
      · exact .inl rfl
      · cases home with
        | none => exact .inr (by simp [styledNotes])
        | some home => exact .inl rfl
      · exact .inl rfl
      · simp only [ListedRule.spans, List.mem_cons, List.not_mem_nil, or_false] at member
        rcases member with rfl | rfl | rfl
        · exact .inl rfl
        · right
          split <;> simp [styledNotes]
        · exact .inl rfl

/-- No event is less important than those that debugging shows. -/
theorem debug_passes (event : Event) : Threshold.passes (some .debug) event.level = true := by
  cases event <;> rfl

theorem errors_transcript (presentation : Presentation) (run : Run Report) :
    (transcript presentation run).errors =
      presentation.filter.notices ++
        String.join ((run.events.filter presentation.filter.shows).map
          (logLine presentation.styled presentation.controls)) ++
        (run.value.failure.map (errorLine presentation.styled)).getD "" := by
  rw [← renderEvent_eq_logLine, ← renderAll_failure]
  rfl

/-- Questions about the program itself report nothing. -/
theorem Request.events_eq_nil {request : Request} (unreported : request.isReported = false)
    (host : Host) (table : DescriptorTable) : (request.perform.run host table).events = [] := by
  cases request with
  | help => rfl
  | version => rfl
  | run | check | baseline => exact absurd unreported Bool.noConfusion

theorem Line.errors_perform (line : Line) (environment : Environment) (host : Host) :
    let run := line.request.perform.run host []
    let filter := Presentation.filterOf environment line.verbose
    let styled := Presentation.asksForStyles environment
    (line.perform environment host).errors =
      (if line.request.isReported then filter.notices else "") ++
        String.join ((run.events.filter filter.shows).map
          (logLine styled (Presentation.allowsControls environment))) ++
        (run.value.failure.map (errorLine styled)).getD "" := by
  intro run filter styled
  rw [Line.perform, errors_transcript]
  cases reported : line.request.isReported with
  | true =>
      have read : (line.presentation environment).filter = filter := by
        rw [Line.presentation, reported]
        rfl
      rw [read]
      rfl
  | false =>
      have silent : run.events = [] := Request.events_eq_nil reported host []
      have unread : (line.presentation environment).filter = .silent := by
        rw [Line.presentation, reported]
        rfl
      rw [unread, silent]
      rfl

/-- The bell, a control function of one character. -/
def bell : Char := '\x07'

theorem bell_notMem_codes (style : Style) :
    bell ∉ (String.join (style.codes.map Span.escapeSequence)).toList := by
  rcases style with ⟨_ | (_ | _ | _ | _), _ | (_ | _)⟩ <;> decide

/-- Styles that are wrapped around some stretches of a text ring no bell of their own. -/
theorem bell_mem_of_styled {spans : List Span}
    (rings : bell ∈ (Span.renderAll true spans).toList) :
    bell ∈ (Span.renderAll false spans).toList := by
  simp only [Span.renderAll, String.toList_join, List.mem_flatMap, List.mem_map] at rings ⊢
  obtain ⟨_, ⟨span, member, rfl⟩, rings⟩ := rings
  refine ⟨_, ⟨span, member, rfl⟩, ?_⟩
  have reset : bell ∉ (Span.escapeSequence 0).toList := by decide
  have codes := bell_notMem_codes span.style
  have plain : span.render false = span.text := rfl
  rw [plain]
  rw [Span.render] at rings
  split at rings
  · simpa only [String.toList_append, List.mem_append, codes, reset, false_or, or_false]
      using rings
  · exact rings

/-- The bell is a control function that is removed. -/
theorem bell_notMem_logLine (styled : Bool) (event : Event) :
    bell ∉ (logLine styled false event).toList := by
  rw [logLine, if_neg Bool.false_ne_true, String.toList_append, String.toList_ofList,
    List.mem_append, not_or]
  refine ⟨?_, fun member => ?_⟩
  · cases event.level <;> decide
  · exact absurd (Text.isShown_of_mem_withoutControls member) (by decide)

/-- Debugging a run without failure shows the lines of all events and nothing else. -/
theorem errors_transcript_debug {run : Run Report} (succeeds : run.value.failure = none)
    (styled controls : Bool) :
    (transcript ⟨.ofThreshold (some .debug), styled, controls⟩ run).errors =
      String.join (run.events.map (logLine styled controls)) := by
  have all : (run.events.filter fun event => Threshold.passes (some .debug) event.level) =
      run.events := List.filter_eq_self.mpr fun event _ => debug_passes event
  rw [errors_transcript, EventFilter.notices_ofThreshold, EventFilter.shows_ofThreshold, all,
    succeeds, String.empty_append]
  exact String.append_empty

end Command
end FileConfinement
