import FileConfinement.Command.EventFilter
import FileConfinement.Proofs.DirectiveLine
import Mathlib.Data.List.Induction

/-!
# What a filter shows

The parts of a value are read one after the other.  In the end the filter has one part for
each target, the last one about it.  To decide about a reporter the parts are looked through
once and the best one so far is kept: in the end the one with the longest beginning among those
about the reporter, and the last of equally long ones.  A value that is the name of a level
asks for the events up to that level and has nothing else to say.
-/

namespace FileConfinement
namespace Command

/-! ### The parts of a value -/

namespace EventFilter

theorem find?_place (selector : Selector) (target : Option (List Char))
    (selectors : List Selector) :
    (place selector selectors).find? (·.target = target) =
      if selector.target = target then some selector else selectors.find? (·.target = target) := by
  induction selectors with
  | nil => by_cases same : selector.target = target <;> simp [place, same]
  | cons first rest ih =>
      rw [place]
      by_cases replaced : first.target = selector.target
      · by_cases same : selector.target = target <;>
          simp [replaced, same]
      · by_cases same : selector.target = target
        · have other : first.target ≠ target := fun isTarget => replaced (isTarget.trans same.symm)
          simp [same, other, ih]
        · simp [replaced, same, ih, List.find?_cons]

theorem map_target_place (selector : Selector) (selectors : List Selector) :
    (place selector selectors).map Selector.target =
      if selector.target ∈ selectors.map Selector.target then
        selectors.map Selector.target
      else
        selectors.map Selector.target ++ [selector.target] := by
  induction selectors with
  | nil => rfl
  | cons first rest ih =>
      rw [place]
      by_cases replaced : first.target = selector.target
      · simp [replaced]
      · have within : selector.target ∈ (first :: rest).map Selector.target ↔
            selector.target ∈ rest.map Selector.target := by
          rw [List.map_cons, List.mem_cons, or_iff_right (Ne.symm replaced)]
        rw [if_neg replaced, List.map_cons, ih]
        by_cases found : selector.target ∈ rest.map Selector.target
        · rw [if_pos found, if_pos (within.mpr found)]
          rfl
        · rw [if_neg found, if_neg (mt within.mp found)]
          rfl

theorem nodup_place {selectors : List Selector}
    (distinct : (selectors.map Selector.target).Nodup) (selector : Selector) :
    ((place selector selectors).map Selector.target).Nodup := by
  rw [map_target_place]
  split
  · exact distinct
  · rename_i new
    refine List.nodup_append.mpr ⟨distinct, by simp, ?_⟩
    rintro target member _ isLast rfl
    exact new (List.mem_singleton.mp isLast ▸ member)

/-- Some parts, placed one after the other. -/
def placed (selectors : List Selector) : List Selector :=
  selectors.foldl (fun before selector => place selector before) []

theorem placed_append_singleton (selectors : List Selector) (last : Selector) :
    placed (selectors ++ [last]) = place last (placed selectors) := by
  rw [placed, List.foldl_append]
  rfl

theorem nodup_placed (selectors : List Selector) :
    ((placed selectors).map Selector.target).Nodup := by
  induction selectors using List.reverseRecOn with
  | nil => exact List.nodup_nil
  | append_singleton selectors last ih => exact placed_append_singleton _ _ ▸ nodup_place ih last

/-- Of the parts about a target the last one counts. -/
theorem find?_placed (target : Option (List Char)) (selectors : List Selector) :
    (placed selectors).find? (·.target = target) =
      selectors.reverse.find? (·.target = target) := by
  induction selectors using List.reverseRecOn with
  | nil => rfl
  | append_singleton selectors last ih =>
      rw [placed_append_singleton, find?_place, ih, List.reverse_append, List.reverse_singleton,
        List.singleton_append, List.find?_cons]
      by_cases same : last.target = target <;> simp [same]

theorem placed_eq_nil_iff {selectors : List Selector} : placed selectors = [] ↔ selectors = [] := by
  constructor
  · intro nothing
    refine List.eq_nil_iff_forall_not_mem.mpr fun selector member => ?_
    have found := find?_placed selector.target selectors
    rw [nothing, List.find?_nil, eq_comm, List.find?_eq_none] at found
    exact found selector (List.mem_reverse.mpr member) (decide_eq_true rfl)
  · rintro rfl
    rfl

/-- The parts that can be read, in order. -/
def readable (parts : List (List Char)) : List Selector :=
  parts.filterMap fun part => (Selector.read part).toOption

/-- The texts that stand in the other parts where a level has to be, in order. -/
def unreadable (parts : List (List Char)) : List String :=
  parts.filterMap fun part =>
    match Selector.read part with
    | .ok _ => none
    | .error text => some (String.ofList text)

theorem foldl_add (parts : List (List Char)) :
    parts.foldl add silent = ⟨placed (readable parts), unreadable parts⟩ := by
  induction parts using List.reverseRecOn with
  | nil => rfl
  | append_singleton parts part ih =>
      rw [List.foldl_append, List.foldl_cons, List.foldl_nil, ih, add]
      cases read : Selector.read part with
      | ok selector =>
          simp [read, Except.toOption, placed_append_singleton, readable, unreadable]
      | error text => simp [read, Except.toOption, readable, unreadable]

/-- What a value asks for: about each target the last part about it counts, and errors are shown
if no part can be read.  The parts that cannot be read are named in order. -/
theorem exists_ofValue?_eq_some {value : String} (plain : '/' ∉ value.toList) :
    ∃ filter, ofValue? value = some filter ∧
      filter.rejected = unreadable (partsOf value.toList) ∧
      (readable (partsOf value.toList) = [] → filter.selectors = [.all (some .error)]) ∧
      (readable (partsOf value.toList) ≠ [] →
        (filter.selectors.map Selector.target).Nodup ∧ ∀ target,
          filter.selectors.find? (·.target = target) =
            (readable (partsOf value.toList)).reverse.find? (·.target = target)) := by
  rw [ofValue?, if_neg plain, foldl_add]
  refine ⟨_, rfl, ?_⟩
  generalize readable (partsOf value.toList) = selectors
  by_cases nothing : selectors = []
  · rw [nothing]
    exact ⟨rfl, fun _ => rfl, fun something => absurd rfl something⟩
  · have filled := mt placed_eq_nil_iff.mp nothing
    rw [orErrors, if_neg (by simpa using filled)]
    exact ⟨rfl, fun empty => absurd empty nothing,
      fun _ => ⟨nodup_placed selectors, fun target => find?_placed target selectors⟩⟩

end EventFilter

/-! ### The part that decides -/

/-- The part at a place decides about the events of a reporter: of the parts about the
reporter none has a longer beginning, and none with an equally long one stands behind. -/
structure Selector.DecidesAt (selectors : List Selector) (reporter : Reporter) (place : Nat)
    (selector : Selector) : Prop where
  isAt : selectors[place]? = some selector
  covers : selector.covers reporter = true
  best : ∀ (other : Nat) (rival : Selector), selectors[other]? = some rival →
    rival.covers reporter = true →
      rival.beginning.length < selector.beginning.length ∨
        (rival.beginning.length = selector.beginning.length ∧ other ≤ place)

namespace Selector.DecidesAt

variable {selectors : List Selector} {reporter : Reporter} {place place' : Nat}
  {selector selector' : Selector}

theorem unique (first : DecidesAt selectors reporter place selector)
    (second : DecidesAt selectors reporter place' selector') : selector = selector' := by
  have behind := first.best place' selector' second.isAt second.covers
  have ahead := second.best place selector first.isAt first.covers
  have same : place = place' := by omega
  exact Option.some.inj (first.isAt.symm.trans (same ▸ second.isAt))

/-- One more part is about other reporters, or its beginning is shorter. -/
theorem append_singleton (decides : DecidesAt selectors reporter place selector)
    {last : Selector} (worse : last.covers reporter = true →
      last.beginning.length < selector.beginning.length) :
    DecidesAt (selectors ++ [last]) reporter place selector where
  isAt := by
    rw [List.getElem?_append_left (List.getElem?_eq_some_iff.mp decides.isAt).1]
    exact decides.isAt
  covers := decides.covers
  best := by
    intro other rival isAt covers
    rw [List.getElem?_append] at isAt
    split at isAt
    · exact decides.best other rival isAt covers
    · obtain rfl := List.mem_singleton.mp (List.mem_of_getElem? isAt)
      exact .inl (worse covers)

/-- One more part that is about a reporter, and has a beginning at least as long as any other,
decides. -/
theorem of_last {last : Selector} (covers : last.covers reporter = true)
    (better : ∀ rival ∈ selectors, rival.covers reporter = true →
      rival.beginning.length ≤ last.beginning.length) :
    DecidesAt (selectors ++ [last]) reporter selectors.length last where
  isAt := List.getElem?_concat_length
  covers := covers
  best := by
    intro other rival isAt about
    have within := (List.getElem?_eq_some_iff.mp isAt).1
    rw [List.length_append, List.length_singleton] at within
    have bound : rival.beginning.length ≤ last.beginning.length := by
      rcases List.mem_append.mp (List.mem_of_getElem? isAt) with early | isLast
      · exact better rival early about
      · exact Nat.le_of_eq (by rw [List.mem_singleton.mp isLast])
    omega

end Selector.DecidesAt

namespace EventFilter

/-- What is known about the best part so far: it decides, or no part is about the reporter. -/
def IsBest (reporter : Reporter) (selectors : List Selector) : Option Selector → Prop
  | some selector => ∃ place, Selector.DecidesAt selectors reporter place selector
  | none => ∀ selector ∈ selectors, selector.covers reporter = false

variable {reporter : Reporter} {selectors : List Selector} {best : Option Selector}

theorem IsBest.length_le (isBest : IsBest reporter selectors best) {bound : Nat}
    (bounded : ∀ selector ∈ best, selector.beginning.length ≤ bound) :
    ∀ rival ∈ selectors, rival.covers reporter = true → rival.beginning.length ≤ bound := by
  intro rival member covers
  cases best with
  | none => exact absurd covers (by simp [isBest rival member])
  | some selector =>
      obtain ⟨place, decides⟩ := isBest
      obtain ⟨other, isAt⟩ := List.mem_iff_getElem?.mp member
      have most := bounded selector rfl
      have shorter := decides.best other rival isAt covers
      omega

/-- One more part is the new best one, or the best one so far stays it. -/
theorem IsBest.choose (isBest : IsBest reporter selectors best) (last : Selector) :
    IsBest reporter (selectors ++ [last]) (choose reporter best last) := by
  rw [EventFilter.choose]
  split
  · rename_i better
    obtain ⟨covers, longest⟩ := Bool.and_eq_true_iff.mp better
    have bounded : ∀ selector ∈ best, selector.beginning.length ≤ last.beginning.length := by
      simpa [Option.all_eq_true] using longest
    exact ⟨_, .of_last covers (isBest.length_le bounded)⟩
  · rename_i worse
    cases best with
    | none => exact List.forall_mem_append.mpr ⟨isBest, by simpa using worse⟩
    | some selector =>
        obtain ⟨place, decides⟩ := isBest
        exact ⟨place, decides.append_singleton (by simpa using worse)⟩

theorem isBest_decisive? (filter : EventFilter) (reporter : Reporter) :
    IsBest reporter filter.selectors (filter.decisive? reporter) := by
  rw [decisive?]
  induction filter.selectors using List.reverseRecOn with
  | nil => exact fun _ member => absurd member List.not_mem_nil
  | append_singleton selectors last ih =>
      rw [List.foldl_append]
      exact ih.choose last

theorem decisive?_eq_some_iff {filter : EventFilter} {selector : Selector} :
    filter.decisive? reporter = some selector ↔
      ∃ place, Selector.DecidesAt filter.selectors reporter place selector := by
  have found := filter.isBest_decisive? reporter
  constructor
  · intro decisive
    rwa [decisive] at found
  · rintro ⟨place, decides⟩
    cases decisive : filter.decisive? reporter with
    | none =>
        rw [decisive] at found
        have uncovered := found selector (List.mem_of_getElem? decides.isAt)
        exact absurd decides.covers (by simp [uncovered])
    | some other =>
        rw [decisive] at found
        obtain ⟨_, decides'⟩ := found
        rw [decides'.unique decides]

/-- The part that decides about an event's reporter lets the event's level pass. -/
def Shows (filter : EventFilter) (event : Event) : Prop :=
  ∃ selector, (∃ place, Selector.DecidesAt filter.selectors event.reporter place selector) ∧
    selector.threshold.passes event.level = true

theorem shows_iff {filter : EventFilter} {event : Event} :
    filter.shows event = true ↔ filter.Shows event := by
  simp only [shows, Shows, Option.any_eq_true, decisive?_eq_some_iff]

/-- A part about the library shows what the library does and leaves out all that the program
says. -/
example : (ofValue? "landlock_confine=debug").map (fun filter =>
    (filter.shows (.rulesetCreated 3), filter.shows .unconfined)) = some (true, false) := by
  decide

end EventFilter

/-! ### Names of levels as filters -/

theorem runsBetween_of_notMem {separator : Char} {text : List Char} (absent : separator ∉ text) :
    runsBetween separator text = [text] := by
  induction text with
  | nil => rfl
  | cons first rest ih =>
      rw [List.mem_cons, not_or] at absent
      rw [runsBetween, if_neg (Ne.symm absent.1), ih absent.2]

/-- Letters stand behind all separators and between all blanks. -/
theorem toNat_of_isLower_toLower {character : Char}
    (letter : character.toLower.isLower = true) :
    65 ≤ character.toNat ∧ character.toNat ≤ 122 := by
  by_cases upper : character.val ≥ 'A'.val ∧ character.val ≤ 'Z'.val
  · have first : 65 ≤ character.toNat := upper.1
    have last : character.toNat ≤ 90 := upper.2
    omega
  · have kept : character.toLower = character := dif_neg upper
    rw [kept] at letter
    obtain ⟨isLate, isEarly⟩ := Bool.and_eq_true_iff.mp letter
    have first : 97 ≤ character.toNat := of_decide_eq_true isLate
    have last : character.toNat ≤ 122 := of_decide_eq_true isEarly
    omega

theorem Threshold.toNat_of_ofWord? {word : List Char} {threshold : Threshold}
    (named : ofWord? word = some threshold) :
    word ≠ [] ∧ ∀ character ∈ word, 65 ≤ character.toNat ∧ character.toNat ≤ 122 := by
  have letters : ∀ entry ∈ names, entry.1.toList ≠ [] ∧ entry.1.toList.all Char.isLower = true := by
    decide
  obtain ⟨before, after, split, _⟩ := List.lookup_eq_some_iff.mp named
  have listed : (String.ofList (word.map Char.toLower), threshold) ∈ names :=
    split ▸ List.mem_append_right before List.mem_cons_self
  obtain ⟨filled, lower⟩ := letters _ listed
  rw [String.toList_ofList] at filled lower
  refine ⟨fun empty => filled (by rw [empty, List.map_nil]), fun character member => ?_⟩
  exact toNat_of_isLower_toLower (List.all_eq_true.mp lower _ (List.mem_map_of_mem member))

namespace EventFilter

/-- The name of a level asks for the events up to that level. -/
theorem ofValue?_of_ofWord? {value : String} {threshold : Threshold}
    (named : Threshold.ofWord? value.toList = some threshold) :
    ofValue? value = some (ofThreshold threshold) := by
  obtain ⟨filled, letters⟩ := Threshold.toNat_of_ofWord? named
  have absent (separator : Char) (outside : separator.toNat < 65) :
      separator ∉ value.toList := fun member => by
    have := (letters separator member).1
    omega
  have solid : ∀ character ∈ value.toList, Text.isBlank character = false := by
    intro character member
    have bounds := letters character member
    exact Text.isBlank_of_toNat (by omega) (by omega)
  have trimmed : Text.trim value.toList = value.toList := Text.trim_of_isTrimmed
    ⟨fun first isFirst => solid first (List.mem_of_mem_head? isFirst),
      fun last isLast => solid last (List.mem_of_mem_getLast? isLast)⟩
  have parts : partsOf value.toList = [value.toList] := by
    simp [partsOf, runsBetween_of_notMem (absent ',' (by decide)), trimmed, filled]
  have read : Selector.read value.toList = .ok (.all threshold) := by
    simp [Selector.read, runsBetween_of_notMem (absent '=' (by decide)), named]
  simp [ofValue?, absent '/' (by decide), parts, add, read, silent, place, orErrors, ofThreshold]

end EventFilter
end Command
end FileConfinement
