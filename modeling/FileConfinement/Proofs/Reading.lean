import FileConfinement.Proofs.DocumentGrammar
import Mathlib.Data.List.DropRight

/-!
# Readers and spellings

A reader of values is right for a way of spelling them when it reads every spelling, space in
front of it included, up to where the value ends, and when whatever it reads is a spelling.
-/

namespace FileConfinement
namespace Document

section Outcomes

variable {ε α β : Type}

theorem bind_eq_ok_iff {outcome : Except ε α} {next : α → Except ε β} {result : β} :
    outcome >>= next = .ok result ↔ ∃ value, outcome = .ok value ∧ next value = .ok result := by
  cases outcome <;> simp [bind, Except.bind]

theorem map_eq_ok_iff {outcome : Except ε α} {change : α → β} {result : β} :
    outcome.map change = .ok result ↔ ∃ value, outcome = .ok value ∧ change value = result := by
  cases outcome <;> simp [Except.map]

theorem toOption_eq_some_iff {outcome : Except ε α} {value : α} :
    outcome.toOption = some value ↔ outcome = .ok value := by
  cases outcome <;> simp [Except.toOption]

end Outcomes

theorem IsSpaces.nil : IsSpaces [] := by simp [IsSpaces]

theorem IsSpaces.append {first second : List Char} (spaces : IsSpaces first)
    (others : IsSpaces second) : IsSpaces (first ++ second) :=
  List.forall_mem_append.mpr ⟨spaces, others⟩

theorem skipSpace_cons {character : Char} (visible : isSpace character = false)
    (rest : List Char) : skipSpace (character :: rest) = character :: rest := by
  simp [skipSpace, visible]

theorem skipSpace_append {space : List Char} (spaces : IsSpaces space) (rest : List Char) :
    skipSpace (space ++ rest) = skipSpace rest :=
  List.dropWhile_append_of_pos spaces

@[simp] theorem skipSpace_skipSpace (unread : List Char) :
    skipSpace (skipSpace unread) = skipSpace unread :=
  List.dropWhile_idempotent _ _

theorem skipSpace_eq_nil_iff {unread : List Char} : skipSpace unread = [] ↔ IsSpaces unread :=
  List.dropWhile_eq_nil_iff

/-- What is skipped in front of the first word is space. -/
theorem exists_spaces (unread : List Char) :
    ∃ space, unread = space ++ skipSpace unread ∧ IsSpaces space :=
  ⟨unread.takeWhile isSpace, List.takeWhile_append_dropWhile.symm,
    fun _ member => List.mem_takeWhile_imp member⟩

/-- What may stand right behind a value: space, a comma, a closing bracket or nothing. -/
def EndsValue (rest : List Char) : Prop :=
  ∀ character ∈ rest.head?,
    isSpace character = true ∨ character = ',' ∨ character = ']' ∨ character = '}'

/-- A spelling begins with a character that is neither space nor the end of a list. -/
def StartsValue (literal : List Char) : Prop :=
  ∃ first rest, literal = first :: rest ∧ isSpace first = false ∧ first ≠ ']'

/-- A reader reads exactly the spellings of values. -/
structure Reads {α : Type} (read : List Char → Except Fault (α × List Char))
    (spells : List Char → α → Prop) : Prop where
  starts : ∀ {literal value}, spells literal value → StartsValue literal
  complete : ∀ {space literal rest value}, IsSpaces space → spells literal value →
    EndsValue rest → read (space ++ (literal ++ rest)) = .ok (value, rest)
  sound : ∀ {unread rest value}, read unread = .ok (value, rest) →
    ∃ space literal, unread = space ++ (literal ++ rest) ∧ IsSpaces space ∧ spells literal value

/-- A reader that skips space in front of a value is right if it is right behind that
space. -/
theorem Reads.of_skipSpace {α : Type} {read : List Char → Except Fault (α × List Char)}
    {spells : List Char → α → Prop}
    (skips : ∀ unread, read (skipSpace unread) = read unread)
    (starts : ∀ {literal value}, spells literal value → StartsValue literal)
    (complete : ∀ {literal rest value}, spells literal value → EndsValue rest →
      read (literal ++ rest) = .ok (value, rest))
    (sound : ∀ {unread rest value}, skipSpace unread = unread →
      read unread = .ok (value, rest) →
        ∃ literal, unread = literal ++ rest ∧ spells literal value) :
    Reads read spells where
  starts := starts
  complete := fun {space literal rest value} spaces spelled ends => by
    rw [← skips, skipSpace_append spaces, skips, complete spelled ends]
  sound := fun {unread rest value} accepted => by
    obtain ⟨space, whole, spaces⟩ := exists_spaces unread
    rw [← skips] at accepted
    obtain ⟨literal, remaining, spelled⟩ := sound (skipSpace_skipSpace unread) accepted
    exact ⟨space, literal, by rw [← remaining, ← whole], spaces, spelled⟩

/-- What is read may be changed by a function. -/
theorem Reads.map {α β : Type} {read : List Char → Except Fault (α × List Char)}
    {spells : List Char → α → Prop} (reads : Reads read spells) (change : α → β) :
    Reads (fun unread => (read unread).map fun (value, rest) => (change value, rest))
      (fun literal changed => ∃ value, spells literal value ∧ changed = change value) where
  starts := fun ⟨_, spelled, _⟩ => reads.starts spelled
  complete := by
    rintro space literal rest changed spaces ⟨value, spelled, rfl⟩ ends
    rw [reads.complete spaces spelled ends]
    rfl
  sound := by
    intro unread rest changed accepted
    obtain ⟨⟨value, left⟩, read, same⟩ := map_eq_ok_iff.mp accepted
    obtain ⟨rfl, rfl⟩ := Prod.mk.inj same
    obtain ⟨space, literal, whole, spaces, spelled⟩ := reads.sound read
    exact ⟨space, literal, whole, spaces, value, spelled, rfl⟩

end Document
end FileConfinement
