import FileConfinement.Command.EventFilter
import FileConfinement.Text.ControlFunction

/-!
# Presentation

How the program shows what it has to say: which events pass the filter, in which
styles text is written, and whether the lines of events may hold control
functions.  Styles are marked in the text itself and written only when that is
asked for.
-/

namespace FileConfinement
namespace Command

/-- A colour of text. -/
inductive Color where
  | red
  | green
  | yellow
  | cyan
deriving DecidableEq, Repr

/-- How strongly text is shown. -/
inductive Weight where
  | bold
  | dim
deriving DecidableEq, Repr

/-- A style of text. -/
structure Style where
  color : Option Color
  weight : Option Weight
deriving DecidableEq, Repr

namespace Style

/-- The style of text that is shown as it is. -/
def plain : Style := ⟨none, none⟩

def colored (color : Color) : Style := ⟨some color, none⟩

def bold (color : Color) : Style := ⟨some color, some .bold⟩

/-- Text that is less important. -/
def dim : Style := ⟨none, some .dim⟩

def colorCode : Color → Nat
  | .red => 31
  | .green => 32
  | .yellow => 33
  | .cyan => 36

def weightCode : Weight → Nat
  | .bold => 1
  | .dim => 2

/-- The numbers that turn a style on, colour first. -/
def codes (style : Style) : List Nat :=
  (style.color.map colorCode).toList ++ (style.weight.map weightCode).toList

end Style

/-- A stretch of text in one style. -/
structure Span where
  style : Style
  text : String
deriving DecidableEq, Repr

namespace Span

def plain (text : String) : Span := ⟨.plain, text⟩

/-- The sequence that sets a number of the terminal's rendition. -/
def escapeSequence (code : Nat) : String :=
  s!"\x1b[{code}m"

/-- A stretch of text as it is written, with or without styles. -/
def render (styled : Bool) (span : Span) : String :=
  if styled && !span.style.codes.isEmpty then
    String.join (span.style.codes.map escapeSequence) ++ span.text ++ escapeSequence 0
  else
    span.text

def renderAll (styled : Bool) (spans : List Span) : String :=
  String.join (spans.map (render styled))

@[simp] theorem render_plain (styled : Bool) (text : String) :
    (plain text).render styled = text := by
  cases styled <;> rfl

@[simp] theorem renderAll_nil (styled : Bool) : renderAll styled [] = "" := rfl

@[simp] theorem renderAll_cons (styled : Bool) (span : Span) (spans : List Span) :
    renderAll styled (span :: spans) = span.render styled ++ renderAll styled spans :=
  String.join_cons

@[simp] theorem renderAll_append (styled : Bool) (first second : List Span) :
    renderAll styled (first ++ second) = renderAll styled first ++ renderAll styled second := by
  rw [renderAll, List.map_append, String.join_append]
  rfl

end Span

def levelStyle : Level → Style
  | .error => .bold .red
  | .warning => .bold .yellow
  | .info => .colored .green
  | .debug => .colored .cyan
  | .trace => .dim

/-- Text filled up with spaces to a width. -/
def pad (width : Nat) (text : String) : String :=
  text.pushn ' ' (width - text.length)

def eventLine (event : Event) : List Span :=
  [⟨levelStyle event.level, pad 5 event.level.name⟩, .plain s!" {event.message}\n"]

/-- How a run of the program is shown. -/
structure Presentation where
  filter : EventFilter
  styled : Bool
  /-- Control functions in the lines of events are written. -/
  controls : Bool
deriving DecidableEq, Repr

/-- The variables of the environment that the program looks at. -/
abbrev Environment := List (String × String)

namespace Presentation

def filterVariable : String := "RUST_LOG"

def styleVariable : String := "CLICOLOR_FORCE"

/-- The variable that asks for events without styles. -/
def plainVariable : String := "NO_COLOR"

/-- The variable that decides about the styles of events. -/
def eventStyleVariable : String := "RUST_LOG_STYLE"

/-- Every variable that the program looks at. -/
def variableNames : List String :=
  [filterVariable, styleVariable, plainVariable, eventStyleVariable]

/-- Whether an environment asks for styles: the variable for them is set to
anything but zero. -/
def asksForStyles (environment : Environment) : Bool :=
  (environment.lookup styleVariable).any (· ≠ "0")

/-- Whether a variable of an environment is set and not empty. -/
def isFilled (environment : Environment) (name : String) : Bool :=
  (environment.lookup name).any (!·.isEmpty)

/-- Whether an environment lets control functions stand in the lines of events.
Here every value of the variable for styles counts that is not empty, zero
included. -/
def allowsControls (environment : Environment) : Bool :=
  match environment.lookup eventStyleVariable with
  | some "always" => true
  | some "never" => false
  | _ => isFilled environment styleVariable && !isFilled environment plainVariable

/-- The filter that an environment and the option for verbosity ask for.  The
variable takes precedence.  What a value with a pattern would show is not worked
out, and nothing is shown for it. -/
def filterOf (environment : Environment) (verbose : Bool) : EventFilter :=
  match environment.lookup filterVariable with
  | some value => (EventFilter.ofValue? value).getD .silent
  | none => .ofThreshold (if verbose then some .debug else some .warning)

/-- The presentation that an environment and the option for verbosity ask for. -/
def ofEnvironment (environment : Environment) (verbose : Bool) : Presentation where
  filter := filterOf environment verbose
  styled := asksForStyles environment
  controls := allowsControls environment

/-- The line of an event as it is written.  A control function that a line leaves
open takes the end of the line with it, but does not reach into the next one. -/
def renderEvent (presentation : Presentation) (event : Event) : String :=
  let line := Span.renderAll presentation.styled (eventLine event)
  if presentation.controls then line else String.ofList (Text.withoutControls line.toList)

/-- The lines of the events that are shown. -/
def renderEvents (presentation : Presentation) (events : List Event) : String :=
  String.join ((events.filter presentation.filter.shows).map presentation.renderEvent)

end Presentation
end Command
end FileConfinement
