import FileConfinement.Proofs.Kernel

/-!
# Descriptors behind a trace

The calls of a trace tell by themselves which descriptors are open after them and on
what.  A trace is admitted when every call names open descriptors only and is answered
with free ones.  Between two closings of one number such a trace opens it again, and
what it opens it closes, unless the descriptor is still open at its end.
-/

namespace FileConfinement

namespace Call

/-- The descriptor that a call opened. -/
def opened? : Call → Option Nat
  | createRuleset _ (.granted descriptor) => some descriptor
  | openPath _ (.granted descriptor) => some descriptor
  | _ => none

/-- The descriptors that a call names. -/
def named : Call → List Nat
  | addRule ruleset _ parent _ => [ruleset, parent]
  | close descriptor => [descriptor]
  | restrict ruleset _ => [ruleset]
  | _ => []

/-- The open descriptors after a call. -/
def tableAfter (table : DescriptorTable) : Call → DescriptorTable
  | createRuleset _ (.granted descriptor) => table.insert descriptor .ruleset
  | openPath path (.granted descriptor) => table.insert descriptor (.path path)
  | close descriptor => table.erase descriptor
  | _ => table

end Call

namespace DescriptorTable

/-- The open descriptors after some calls. -/
def replay (table : DescriptorTable) (calls : List Call) : DescriptorTable :=
  calls.foldl Call.tableAfter table

/-- A call that may be made and answered while some descriptors are open. -/
structure Admits (table : DescriptorTable) (call : Call) : Prop where
  named_open : ∀ descriptor ∈ call.named, descriptor ∈ table.descriptors
  opened_free : ∀ descriptor, call.opened? = some descriptor → descriptor ∉ table.descriptors

/-- Every call of a trace may be made after those before it. -/
def AdmitsAll (table : DescriptorTable) : List Call → Prop
  | [] => True
  | call :: calls => table.Admits call ∧ AdmitsAll (call.tableAfter table) calls

@[simp] theorem replay_nil (table : DescriptorTable) : table.replay [] = table := rfl

@[simp] theorem replay_cons (table : DescriptorTable) (call : Call) (calls : List Call) :
    table.replay (call :: calls) = (call.tableAfter table).replay calls := rfl

theorem replay_append (table : DescriptorTable) (first second : List Call) :
    table.replay (first ++ second) = (table.replay first).replay second :=
  List.foldl_append

theorem admitsAll_append {table : DescriptorTable} {first second : List Call} :
    table.AdmitsAll (first ++ second) ↔
      table.AdmitsAll first ∧ (table.replay first).AdmitsAll second := by
  induction first generalizing table with
  | nil => simp [AdmitsAll]
  | cons call first ih =>
      simp only [List.cons_append, AdmitsAll, replay_cons, ih, and_assoc]

@[simp] theorem mem_descriptors_insert {table : DescriptorTable} {descriptor other : Nat}
    {opened : Opened} :
    other ∈ (table.insert descriptor opened).descriptors ↔
      other = descriptor ∨ other ∈ table.descriptors :=
  List.mem_cons

@[simp] theorem mem_descriptors_erase {table : DescriptorTable} {descriptor other : Nat} :
    other ∈ (table.erase descriptor).descriptors ↔
      other ≠ descriptor ∧ other ∈ table.descriptors := by
  simp only [descriptors, erase, List.mem_map, List.mem_filter, decide_eq_true_eq]
  constructor
  · rintro ⟨entry, ⟨member, different⟩, rfl⟩
    exact ⟨different, entry, member, rfl⟩
  · rintro ⟨different, entry, member, rfl⟩
    exact ⟨entry, ⟨member, different⟩, rfl⟩

theorem self_mem_insert (table : DescriptorTable) (descriptor : Nat) (opened : Opened) :
    descriptor ∈ (table.insert descriptor opened).descriptors :=
  mem_descriptors_insert.mpr (.inl rfl)

variable {table : DescriptorTable} {call : Call} {calls : List Call} {descriptor : Nat}

theorem admits_of_silent (unnamed : call.named = []) (unopened : call.opened? = none) :
    table.Admits call := by
  refine ⟨?_, ?_⟩
  · simp [unnamed]
  · simp [unopened]

theorem admits_of_named (named : call.named = [descriptor]) (unopened : call.opened? = none)
    (isOpen : descriptor ∈ table.descriptors) : table.Admits call := by
  refine ⟨?_, ?_⟩
  · intro other member
    rw [named, List.mem_singleton] at member
    rwa [member]
  · simp [unopened]

theorem admits_of_opened (unnamed : call.named = []) (answered : call.opened? = some descriptor)
    (free : descriptor ∉ table.descriptors) : table.Admits call := by
  refine ⟨?_, ?_⟩
  · simp [unnamed]
  · intro other answered'
    rw [← Option.some.inj (answered.symm.trans answered')]
    exact free

/-- A call opens a descriptor, closes one, or leaves the open descriptors alone. -/
theorem tableAfter_cases (table : DescriptorTable) (call : Call) :
    (∃ descriptor opened, call.opened? = some descriptor ∧
        call.tableAfter table = table.insert descriptor opened) ∨
      (∃ descriptor, call = .close descriptor ∧
        call.tableAfter table = table.erase descriptor) ∨
      (call.opened? = none ∧ call.tableAfter table = table) := by
  cases call with
  | createRuleset handled reply =>
      cases reply with
      | granted descriptor => exact .inl ⟨descriptor, .ruleset, rfl, rfl⟩
      | refused errno => exact .inr (.inr ⟨rfl, rfl⟩)
  | openPath path reply =>
      cases reply with
      | granted descriptor => exact .inl ⟨descriptor, .path path, rfl, rfl⟩
      | refused errno => exact .inr (.inr ⟨rfl, rfl⟩)
  | close descriptor => exact .inr (.inl ⟨descriptor, rfl, rfl⟩)
  | _ => exact .inr (.inr ⟨rfl, rfl⟩)

theorem mem_tableAfter (isOpen : descriptor ∈ table.descriptors)
    (unclosed : call ≠ .close descriptor) :
    descriptor ∈ (call.tableAfter table).descriptors := by
  rcases tableAfter_cases table call with
    ⟨other, opened, _, after⟩ | ⟨other, rfl, after⟩ | ⟨_, after⟩
  · rw [after]
    exact mem_descriptors_insert.mpr (.inr isOpen)
  · rw [after]
    refine mem_descriptors_erase.mpr ⟨?_, isOpen⟩
    rintro rfl
    exact unclosed rfl
  · rwa [after]

theorem notMem_tableAfter (closed : descriptor ∉ table.descriptors)
    (unopened : call.opened? ≠ some descriptor) :
    descriptor ∉ (call.tableAfter table).descriptors := by
  intro member
  rcases tableAfter_cases table call with
    ⟨other, opened, answered, after⟩ | ⟨other, rfl, after⟩ | ⟨_, after⟩
  · rw [after, mem_descriptors_insert] at member
    rcases member with rfl | already
    · exact unopened answered
    · exact closed already
  · rw [after, mem_descriptors_erase] at member
    exact closed member.2
  · rw [after] at member
    exact closed member

theorem mem_tableAfter_of_opened (answered : call.opened? = some descriptor) :
    descriptor ∈ (call.tableAfter table).descriptors := by
  rcases tableAfter_cases table call with
    ⟨other, opened, answered', after⟩ | ⟨other, rfl, _⟩ | ⟨silent, _⟩
  · obtain rfl := Option.some.inj (answered.symm.trans answered')
    rw [after]
    exact mem_descriptors_insert.mpr (.inl rfl)
  · exact absurd answered (by simp [Call.opened?])
  · exact absurd (silent.symm.trans answered) (by simp)

theorem mem_replay (isOpen : descriptor ∈ table.descriptors)
    (unclosed : .close descriptor ∉ calls) : descriptor ∈ (table.replay calls).descriptors := by
  induction calls generalizing table with
  | nil => exact isOpen
  | cons call calls ih =>
      rw [List.mem_cons, not_or] at unclosed
      exact ih (mem_tableAfter isOpen (Ne.symm unclosed.1)) unclosed.2

theorem notMem_replay (closed : descriptor ∉ table.descriptors)
    (unopened : ∀ call ∈ calls, call.opened? ≠ some descriptor) :
    descriptor ∉ (table.replay calls).descriptors := by
  induction calls generalizing table with
  | nil => exact closed
  | cons call calls ih =>
      have first := notMem_tableAfter closed (unopened call List.mem_cons_self)
      exact ih first fun other member => unopened other (List.mem_cons_of_mem call member)

theorem AdmitsAll.admits {before after : List Call}
    (admitted : table.AdmitsAll (before ++ call :: after)) : (table.replay before).Admits call :=
  (admitsAll_append.mp admitted).2.1

theorem AdmitsAll.behind {before after : List Call}
    (admitted : table.AdmitsAll (before ++ call :: after)) :
    (call.tableAfter (table.replay before)).AdmitsAll after :=
  (admitsAll_append.mp admitted).2.2

/-- A number that is closed twice is opened in between. -/
theorem AdmitsAll.opened_between {before between after : List Call}
    (admitted : table.AdmitsAll
      (before ++ .close descriptor :: (between ++ .close descriptor :: after))) :
    ∃ call ∈ between, call.opened? = some descriptor := by
  by_contra unopened
  push Not at unopened
  have released : descriptor ∉
      ((Call.close descriptor).tableAfter (table.replay before)).descriptors := by
    intro member
    exact (mem_descriptors_erase.mp member).1 rfl
  have again := admitted.behind.admits.named_open descriptor List.mem_cons_self
  exact notMem_replay released unopened again

/-- What was opened is closed before its number is given out again, or it is not closed
and still open at the end. -/
theorem AdmitsAll.closed_or_open {before after : List Call}
    (admitted : table.AdmitsAll (before ++ call :: after))
    (answered : call.opened? = some descriptor) :
    (.close descriptor ∉ after ∧
        descriptor ∈ (table.replay (before ++ call :: after)).descriptors) ∨
      ∃ between rest, after = between ++ .close descriptor :: rest ∧
        .close descriptor ∉ between ∧ ∀ other ∈ between, other.opened? ≠ some descriptor := by
  have isOpen := @mem_tableAfter_of_opened (table.replay before) call descriptor answered
  by_cases closed : Call.close descriptor ∈ after
  · right
    obtain ⟨between, rest, split, first⟩ := List.eq_append_cons_of_mem closed
    refine ⟨between, rest, split, first, ?_⟩
    intro other member reopened
    obtain ⟨early, late, split'⟩ := List.append_of_mem member
    have unclosed : Call.close descriptor ∉ early := by
      intro among
      exact first (split' ▸ List.mem_append_left _ among)
    have later := admitted.behind
    rw [split, split', List.append_assoc, List.cons_append] at later
    exact later.admits.opened_free descriptor reopened (mem_replay isOpen unclosed)
  · left
    refine ⟨closed, ?_⟩
    rw [replay_append, replay_cons]
    exact mem_replay isOpen closed

end DescriptorTable
end FileConfinement
