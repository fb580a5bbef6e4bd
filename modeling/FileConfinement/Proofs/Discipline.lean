import FileConfinement.Proofs.OpenDescriptors
import FileConfinement.Proofs.Standing

/-!
# Operations release what they open

The calls of the ruleset protocol name open descriptors only, and every parent is
closed right behind its rule.  What is open after an operation on a ruleset is what its
calls leave open: the descriptors that were open beside the ruleset, and the one of the
ruleset while it is open.
-/

namespace FileConfinement

/-- Every parent is closed right behind the rule that it was opened for, whatever is
answered to the rule. -/
def ParentsClosed (calls : List Call) : Prop :=
  ∀ before path parent after, calls = before ++ .openPath path (.granted parent) :: after →
    ∃ ruleset mask reply rest,
      after = .addRule ruleset mask parent reply :: .close parent :: rest

/-- Calls that may be made while some descriptors are open and leave others open. -/
structure Disciplined (table : DescriptorTable) (calls : List Call) (after : DescriptorTable) :
    Prop where
  admitted : table.AdmitsAll calls
  replayed : table.replay calls = after
  parents : ParentsClosed calls

theorem ParentsClosed.append {first second : List Call} (closed : ParentsClosed first)
    (closed' : ParentsClosed second) : ParentsClosed (first ++ second) := by
  intro before path parent after split
  rcases List.append_eq_append_iff.mp split with ⟨between, _, within⟩ | ⟨between, within, across⟩
  · exact closed' between path parent after within
  · cases between with
    | nil => exact closed' [] path parent after across.symm
    | cons call between =>
        rw [List.cons_append, List.cons.injEq] at across
        obtain ⟨rfl, rfl⟩ := across
        obtain ⟨ruleset, mask, reply, rest, rfl⟩ := closed before path parent between within
        exact ⟨ruleset, mask, reply, rest ++ second, rfl⟩

theorem parentsClosed_of_notMem {calls : List Call}
    (unopened : ∀ path parent, .openPath path (.granted parent) ∉ calls) :
    ParentsClosed calls := by
  intro before path parent after split
  refine absurd ?_ (unopened path parent)
  rw [split]
  exact List.mem_append_right before List.mem_cons_self

theorem Disciplined.nil (table : DescriptorTable) : Disciplined table [] table :=
  ⟨trivial, rfl, parentsClosed_of_notMem fun _ _ => List.not_mem_nil⟩

theorem Disciplined.append {table middle after : DescriptorTable} {first second : List Call}
    (disciplined : Disciplined table first middle) (later : Disciplined middle second after) :
    Disciplined table (first ++ second) after := by
  obtain ⟨admitted, rfl, parents⟩ := disciplined
  obtain ⟨admitted', rfl, parents'⟩ := later
  exact ⟨DescriptorTable.admitsAll_append.mpr ⟨admitted, admitted'⟩,
    table.replay_append first second, parents.append parents'⟩

theorem disciplined_close {table : DescriptorTable} {descriptor : Nat}
    (isOpen : descriptor ∈ table.descriptors) :
    Disciplined table [.close descriptor] (table.erase descriptor) := by
  have admitted : table.Admits (.close descriptor) :=
    DescriptorTable.admits_of_named rfl rfl isOpen
  exact ⟨⟨admitted, trivial⟩, rfl, parentsClosed_of_notMem (by simp)⟩

namespace Phase

/-- The descriptors that are open in a phase, over those that are open beside the
ruleset. -/
inductive Spans (base : DescriptorTable) : Phase → DescriptorTable → Prop where
  | fresh : Spans base fresh base
  | open (ruleset : Nat) : Spans base (.open ruleset) (base.insert ruleset .ruleset)
  | inserting (ruleset parent : Nat) (path : Path) :
      Spans base (inserting ruleset parent)
        ((base.insert ruleset .ruleset).insert parent (.path path))
  | leaving (ruleset parent : Nat) (path : Path) :
      Spans base (leaving ruleset parent)
        ((base.insert ruleset .ruleset).insert parent (.path path))
  | surrendered (ruleset : Nat) :
      Spans base (surrendered ruleset) (base.insert ruleset .ruleset)
  | restricted (ruleset : Nat) :
      Spans base (restricted ruleset) (base.insert ruleset .ruleset)
  | committed (ruleset : Nat) : Spans base (committed ruleset) base
  | discarded (ruleset : Nat) : Spans base (discarded ruleset) base

/-- A phase between two operations: no parent is open. -/
def IsSettled : Phase → Prop
  | inserting _ _ | leaving _ _ => False
  | _ => True

variable {base table : DescriptorTable} {taken : List Nat} {phase next last : Phase}
  {call : Call} {calls : List Call}

/-- A parent whose insertion is completed was free, and it is closed right behind its
rule. -/
theorem Leads.parent_follows {ruleset parent : Nat}
    (leads : (inserting ruleset parent).Leads taken calls last) (settled : last.IsSettled) :
    parent ∉ ruleset :: taken ∧ ∃ mask reply rest,
      calls = .addRule ruleset mask parent reply :: .close parent :: rest := by
  cases leads with
  | rest => exact settled.elim
  | next answered leads =>
      cases answered with
      | ruleAnswered ruleset parent grantable reply =>
          cases leads with
          | rest => exact settled.elim
          | next closed leads =>
              cases closed with
              | parentClosed free => exact ⟨free, _, _, _, rfl⟩

theorem Leads.parentsClosed (leads : phase.Leads taken calls last) (settled : last.IsSettled) :
    ParentsClosed calls := by
  intro before path parent after split
  rw [split] at leads
  obtain ⟨next, _, leads'⟩ := leads.split
  cases leads' with
  | next step rest =>
      cases step with
      | parentOpened ruleset path parent =>
          obtain ⟨_, mask, reply, others, follows⟩ := rest.parent_follows settled
          exact ⟨ruleset, mask, reply, others, follows⟩

open DescriptorTable in
/-- One call of the protocol is admitted in its phase when the parent that it opens, if
it opens one, is free. -/
theorem Next.admits (step : phase.Next base.descriptors call next) (spans : phase.Spans base table)
    (free : ∀ path parent, call = .openPath path (.granted parent) →
      parent ∉ table.descriptors) :
    table.Admits call ∧ next.Spans base (call.tableAfter table) := by
  have ofRuleset (ruleset : Nat) := base.self_mem_insert ruleset .ruleset
  cases step with
  | creationRefused errno => exact ⟨admits_of_silent rfl rfl, spans⟩
  | @created ruleset isFree =>
      cases spans
      exact ⟨admits_of_opened rfl rfl isFree, .open ruleset⟩
  | parentRefused ruleset path errno => exact ⟨admits_of_silent rfl rfl, spans⟩
  | parentOpened ruleset path parent =>
      cases spans
      exact ⟨admits_of_opened rfl rfl (free path parent rfl), .inserting ruleset parent path⟩
  | ruleAnswered ruleset parent grantable reply =>
      cases spans
      refine ⟨⟨?_, nofun⟩, .leaving ruleset parent _⟩
      intro descriptor member
      rcases List.mem_pair.mp member with rfl | rfl
      · exact mem_descriptors_insert.mpr (.inr (ofRuleset descriptor))
      · exact self_mem_insert _ descriptor _
  | @parentClosed ruleset parent isFree =>
      cases spans with
      | leaving ruleset parent path =>
          have restored := @erase_insert (base.insert ruleset .ruleset) parent isFree (.path path)
          refine ⟨admits_of_named rfl rfl (self_mem_insert _ parent _), ?_⟩
          rw [Call.tableAfter, restored]
          exact .open ruleset
  | privilegesKept ruleset errno => exact ⟨admits_of_silent rfl rfl, spans⟩
  | privilegesGivenUp ruleset =>
      cases spans
      exact ⟨admits_of_silent rfl rfl, .surrendered ruleset⟩
  | restrictionRefused ruleset errno =>
      cases spans
      exact ⟨admits_of_named rfl rfl (ofRuleset ruleset), .open ruleset⟩
  | @restrictionGranted ruleset isFree =>
      cases spans
      exact ⟨admits_of_named rfl rfl (ofRuleset ruleset), .restricted ruleset⟩
  | @released ruleset isFree =>
      cases spans
      refine ⟨admits_of_named rfl rfl (ofRuleset ruleset), ?_⟩
      rw [Call.tableAfter, erase_insert isFree]
      exact .committed ruleset
  | @discarded ruleset isFree =>
      cases spans
      refine ⟨admits_of_named rfl rfl (ofRuleset ruleset), ?_⟩
      rw [Call.tableAfter, erase_insert isFree]
      exact .discarded ruleset

theorem Leads.admits (leads : phase.Leads base.descriptors calls last)
    (settled : last.IsSettled) (spans : phase.Spans base table) :
    table.AdmitsAll calls ∧ last.Spans base (table.replay calls) := by
  induction leads generalizing table with
  | rest phase => exact ⟨trivial, spans⟩
  | @next first second third call calls step rest ih =>
      have free : ∀ path parent, call = .openPath path (.granted parent) →
          parent ∉ table.descriptors := by
        rintro path parent rfl
        cases step with
        | parentOpened ruleset path parent =>
            cases spans
            -- The parent is known to be free from where it is closed.
            exact (rest.parent_follows settled).1
      obtain ⟨admits, spans'⟩ := step.admits spans free
      obtain ⟨admitted, spans''⟩ := ih settled spans'
      exact ⟨⟨admits, admitted⟩, spans''⟩

end Phase

variable {base table after : DescriptorTable} {ruleset : Ruleset} {phase : Phase}

theorem Ruleset.Stands.spans (standing : ruleset.Stands base phase table) :
    phase.Spans base table := by
  cases standing with
  | fresh state => exact .fresh
  | @«open» descriptor state free => exact .open descriptor
  | committed descriptor state => exact .committed descriptor

theorem Ruleset.Stands.settled (standing : ruleset.Stands base phase table) :
    phase.IsSettled := by
  cases standing <;> trivial

theorem Ruleset.Stands.eq_of_spans (standing : ruleset.Stands base phase table)
    (spans : phase.Spans base after) : after = table := by
  cases standing <;> cases spans <;> rfl

/-- What is open beside a ruleset, and its own descriptor while it is open. -/
theorem Ruleset.Stands.descriptors (standing : ruleset.Stands base phase table) :
    table.descriptors = ruleset.descriptor?.toList ++ base.descriptors := by
  cases standing with
  | fresh state => simp [descriptor?, state]
  | @«open» descriptor state free =>
      simp [descriptor?, state, DescriptorTable.insert, DescriptorTable.descriptors]
  | committed descriptor state => simp [descriptor?, state]

/-- An operation on a ruleset that follows the protocol is disciplined. -/
theorem Trail.Follows.disciplined {trail : Trail} (follows : trail.Follows base ruleset phase)
    (standing : ruleset.Stands base phase table) :
    Disciplined table trail.calls trail.table := by
  obtain ⟨next, standing', leads, _⟩ := follows
  have settled := standing'.settled
  obtain ⟨admitted, spans⟩ := leads.admits settled standing.spans
  exact ⟨admitted, standing'.eq_of_spans spans, leads.parentsClosed settled⟩

theorem Ruleset.Stands.disciplined_discard (standing : ruleset.Stands base phase table)
    (host : Host) : Disciplined table (ruleset.discard.run host table).calls base := by
  rw [run_discard]
  cases standing with
  | fresh state => simpa [descriptor?, state] using Disciplined.nil base
  | committed descriptor state => simpa [descriptor?, state] using Disciplined.nil base
  | @«open» descriptor state free =>
      have closed := disciplined_close (base.self_mem_insert descriptor .ruleset)
      rw [DescriptorTable.erase_insert free] at closed
      simpa [descriptor?, state] using closed

/-- A confinement on a ruleset of its own closes whatever it opens. -/
theorem Context.disciplined_confine (context : Context) (host : Host) (table : DescriptorTable) :
    Disciplined table (context.confine.run host table).calls table := by
  cases version : host.kernelVersion with
  | error failure =>
      rw [context.run_confine_of_unversioned host version]
      exact .nil table
  | ok kernel =>
      obtain ⟨_, _, calls⟩ := context.run_confine_of_version host version table
      have begun : (Ruleset.forKernel kernel).Stands table .fresh table := .fresh rfl
      have follows := context.follows_confineWith host begun
      have carried := follows.disciplined begun
      obtain ⟨next, standing, _⟩ := follows
      rw [calls]
      exact carried.append (standing.disciplined_discard host)

end FileConfinement
