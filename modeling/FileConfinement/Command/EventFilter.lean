import FileConfinement.Event
import FileConfinement.Text.Blank

/-!
# Which events are shown

A filter is written as parts between commas.  A part is the least important level
that is shown, or the beginning of the names of some reporters, with or without a
level of its own behind an equals sign.  Of the parts that are about a reporter
the one with the longest beginning decides about its events.

Behind a slash there may be a pattern for the texts of events.  Patterns have a
language of their own, which is left out here.
-/

namespace FileConfinement
namespace Command

/-- The least important level that is shown; nothing is shown without one. -/
abbrev Threshold := Option Level

namespace Threshold

def passes (threshold : Threshold) (level : Level) : Bool :=
  match threshold with
  | some least => level.rank ≤ least.rank
  | none => false

def names : List (String × Threshold) :=
  [("off", none), ("error", some .error), ("warn", some .warning), ("info", some .info),
    ("debug", some .debug), ("trace", some .trace)]

/-- The threshold that a word names, in either case. -/
def ofWord? (word : List Char) : Option Threshold :=
  names.lookup (String.ofList (word.map Char.toLower))

end Threshold

/-- The runs of characters between separators. -/
def runsBetween (separator : Char) : List Char → List (List Char)
  | [] => [[]]
  | character :: rest =>
      if character = separator then
        [] :: runsBetween separator rest
      else
        match runsBetween separator rest with
        | run :: runs => (character :: run) :: runs
        | [] => [[character]]

/-- What one part of a filter says. -/
structure Selector where
  /-- The beginning of the names of the reporters that the part is about; without it
  the part is about all of them. -/
  target : Option (List Char)
  threshold : Threshold
deriving DecidableEq, Repr

namespace Selector

/-- The part about all reporters. -/
def all (threshold : Threshold) : Selector := ⟨none, threshold⟩

/-- What the names of the reporters begin with that a part is about. -/
def beginning (selector : Selector) : List Char := selector.target.getD []

def covers (selector : Selector) (reporter : Reporter) : Bool :=
  selector.beginning.isPrefixOf reporter.name.toList

/-- Read a part of a filter; the error is a text that should have named a level. -/
def read (part : List Char) : Except (List Char) Selector :=
  match runsBetween '=' part with
  | [word] =>
      match Threshold.ofWord? word with
      | some threshold => .ok (all threshold)
      | none => .ok ⟨some word, some .trace⟩
  | [target, level] =>
      let word := Text.trim level
      if word.isEmpty then
        .ok ⟨some target, some .trace⟩
      else
        match Threshold.ofWord? word with
        | some threshold => .ok ⟨some target, threshold⟩
        | none => .error word
  | _ => .error part

end Selector

/-- Which events are shown, and which parts of the filter could not be read. -/
structure EventFilter where
  selectors : List Selector
  /-- The texts that should have named a level. -/
  rejected : List String
deriving DecidableEq, Repr

namespace EventFilter

/-- The filter that shows nothing. -/
def silent : EventFilter := ⟨[], []⟩

def ofThreshold (threshold : Threshold) : EventFilter := ⟨[.all threshold], []⟩

/-- A part takes the place of an earlier one about the same reporters. -/
def place (selector : Selector) : List Selector → List Selector
  | [] => [selector]
  | other :: others =>
      if other.target = selector.target then
        selector :: others
      else
        other :: place selector others

def add (filter : EventFilter) (part : List Char) : EventFilter :=
  match Selector.read part with
  | .ok selector => { filter with selectors := place selector filter.selectors }
  | .error text => { filter with rejected := filter.rejected ++ [String.ofList text] }

/-- The parts of a value.  Blanks around them and empty parts do not count. -/
def partsOf (value : List Char) : List (List Char) :=
  ((runsBetween ',' value).map Text.trim).filter (!·.isEmpty)

/-- A filter of which no part could be read shows errors. -/
def orErrors (filter : EventFilter) : EventFilter :=
  if filter.selectors.isEmpty then
    { filter with selectors := [.all (some .error)] }
  else
    filter

/-- The filter that a value asks for, if the value holds no pattern. -/
def ofValue? (value : String) : Option EventFilter :=
  if '/' ∈ value.toList then
    none
  else
    some ((partsOf value.toList).foldl add silent).orErrors

/-- What is said about the parts that could not be read. -/
def notices (filter : EventFilter) : String :=
  String.join (filter.rejected.map fun text =>
    s!"warning: invalid logging spec '{text}', ignoring it\n")

/-- The better of two parts for a reporter, the second of equal ones. -/
def choose (reporter : Reporter) (best : Option Selector) (selector : Selector) :
    Option Selector :=
  if selector.covers reporter &&
      best.all fun other => other.beginning.length ≤ selector.beginning.length then
    some selector
  else
    best

/-- The part that decides about the events of a reporter. -/
def decisive? (filter : EventFilter) (reporter : Reporter) : Option Selector :=
  filter.selectors.foldl (choose reporter) none

def shows (filter : EventFilter) (event : Event) : Bool :=
  (filter.decisive? event.reporter).any fun selector => selector.threshold.passes event.level

@[simp] theorem shows_ofThreshold (threshold : Threshold) :
    (ofThreshold threshold).shows = fun event => threshold.passes event.level := rfl

@[simp] theorem notices_ofThreshold (threshold : Threshold) :
    (ofThreshold threshold).notices = "" := rfl

end EventFilter
end Command
end FileConfinement
