import FileConfinement.Action
import Mathlib.Data.List.Perm.Subperm

/-!
# The kernel's side

What each system call answers, records and does to the open descriptors.  The
number given to a new descriptor is free, so that closing the descriptor restores
the table from before it was opened.  Records of calls grow at their end.
-/

namespace FileConfinement

/-- A host of kernel 6.5 on which some paths exist and every call succeeds. -/
def Host.willing (paths : List Path) : Host where
  release := [54, 46, 53, 46, 48]
  releaseError := none
  abi := some 4
  uid := 1000
  homeVariable := none
  userEntries := []
  userEntryError := none
  createError := none
  privilegeError := none
  restrictError := none
  executeError := none
  files := paths.map fun path => ⟨path, none, none, none, none⟩

/-- A place in a list that grew by one element is its new end or a place in the list
before. -/
theorem place_of_append_singleton {α : Type} {list before after : List α} {last entry : α}
    (split : list ++ [last] = before ++ entry :: after) :
    after = [] ∧ list = before ∧ last = entry ∨ ∃ rest, list = before ++ entry :: rest := by
  rcases List.eq_nil_or_concat after with rfl | ⟨rest, final, rfl⟩
  · obtain ⟨same, ends⟩ := List.append_inj' split rfl
    exact .inl ⟨rfl, same, List.singleton_inj.mp ends⟩
  · rw [List.concat_eq_append, ← List.cons_append, ← List.append_assoc] at split
    exact .inr ⟨rest, (List.append_inj' split rfl).1⟩

namespace DescriptorTable

/-- The numbers of the open descriptors. -/
def descriptors (table : DescriptorTable) : List Nat := table.map Prod.fst

/-- One of the candidates is free: there are more of them than open
descriptors. -/
theorem lowestFree_notMem (table : DescriptorTable) :
    table.lowestFree ∉ table.descriptors := by
  cases found : (List.range' firstDescriptor (table.length + 1)).find?
      fun descriptor => descriptor ∉ table.descriptors with
  | some descriptor =>
      have free := List.find?_some found
      have lowest : table.lowestFree = descriptor := by
        change (Option.getD _ _) = _
        exact congrArg (Option.getD · firstDescriptor) found
      rw [lowest]
      simpa using free
  | none =>
      have taken : List.range' firstDescriptor (table.length + 1) ⊆ table.descriptors := by
        intro descriptor member
        simpa using List.find?_eq_none.mp found descriptor member
      have fits := (List.Nodup.subperm List.nodup_range' taken).length_le
      simp only [List.length_range', descriptors, List.length_map] at fits
      omega

theorem erase_insert {table : DescriptorTable} {descriptor : Nat}
    (free : descriptor ∉ table.descriptors) (opened : Opened) :
    (table.insert descriptor opened).erase descriptor = table := by
  have kept : table.filter (fun entry => decide (entry.1 ≠ descriptor)) = table := by
    rw [List.filter_eq_self]
    rintro ⟨other, kind⟩ member
    have member' : other ∈ table.descriptors := List.mem_map_of_mem member
    simp only [ne_eq, decide_eq_true_eq]
    rintro rfl
    exact free member'
  simpa [insert, erase] using kept

/-- Closing a descriptor that was just opened leaves no trace of it. -/
@[simp] theorem erase_insert_lowestFree (table : DescriptorTable) (opened : Opened) :
    (table.insert table.lowestFree opened).erase table.lowestFree = table :=
  erase_insert table.lowestFree_notMem opened

@[simp] theorem path?_insert (table : DescriptorTable) (descriptor : Nat) (path : Path) :
    (table.insert descriptor (.path path)).path? descriptor = some path := by
  simp [insert, path?]

end DescriptorTable

namespace Action

@[simp] theorem run_map {α β : Type} (change : α → β) (action : Action α) (host : Host)
    (table : DescriptorTable) :
    (change <$> action).run host table =
      { action.run host table with value := change (action.run host table).value } := by
  rw [map_eq_pure_bind, run_bind]
  simp only [run_pure, List.append_nil]

end Action

namespace Kernel

variable {host : Host} (table : DescriptorTable)

theorem run_createRuleset_refused {errno : Errno} (refused : host.createError = some errno)
    (handled : AccessMask) :
    (createRuleset handled).run host table =
      ⟨.refused errno, table, [.createRuleset handled (.refused errno)], []⟩ := by
  simp [createRuleset, Action.run, refused]

theorem run_createRuleset_granted (granted : host.createError = none) (handled : AccessMask) :
    (createRuleset handled).run host table =
      ⟨.granted table.lowestFree, table.insert table.lowestFree .ruleset,
        [.createRuleset handled (.granted table.lowestFree)], []⟩ := by
  simp [createRuleset, Action.run, granted]

theorem run_openPath_refused {path : Path} {errno : Errno}
    (refused : host.openError? path = some errno) :
    (openPath path).run host table =
      ⟨.refused errno, table, [.openPath path (.refused errno)], []⟩ := by
  simp [openPath, Action.run, refused]

theorem run_openPath_granted {path : Path} (granted : host.openError? path = none) :
    (openPath path).run host table =
      ⟨.granted table.lowestFree, table.insert table.lowestFree (.path path),
        [.openPath path (.granted table.lowestFree)], []⟩ := by
  simp [openPath, Action.run, granted]

variable (host)

@[simp] theorem run_addRule (ruleset : Nat) (mask : AccessMask) (parent : Nat) :
    (addRule ruleset mask parent).run host table =
      let reply := replyUnless ((table.path? parent).bind host.ruleError?)
      ⟨reply, table, [.addRule ruleset mask parent reply], []⟩ := rfl

@[simp] theorem run_close (descriptor : Nat) :
    (close descriptor).run host table =
      ⟨(), table.erase descriptor, [.close descriptor], []⟩ := rfl

@[simp] theorem run_giveUpPrivileges :
    giveUpPrivileges.run host table =
      let reply := replyUnless host.privilegeError
      ⟨reply, table, [.giveUpPrivileges reply], []⟩ := rfl

@[simp] theorem run_restrict (ruleset : Nat) :
    (restrict ruleset).run host table =
      let reply := replyUnless host.restrictError
      ⟨reply, table, [.restrict ruleset reply], []⟩ := rfl

@[simp] theorem run_execute (program : String) (arguments : List String) :
    (execute program arguments).run host table =
      let reply := replyUnless host.executeError
      ⟨reply, table, [.execute program arguments reply], []⟩ := rfl

@[simp] theorem replyUnless_some (errno : Errno) :
    replyUnless (some errno) = .refused errno := rfl

@[simp] theorem replyUnless_none : replyUnless none = .granted () := rfl

end Kernel
end FileConfinement
