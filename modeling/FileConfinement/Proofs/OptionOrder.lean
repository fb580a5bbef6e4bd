import FileConfinement.Command.Switch
import Mathlib.Data.List.Sort

/-!
# The order of directives on a command line

Directives are collected class by class, as paths and places apart, and put back in order
afterwards.  What comes out is the directives of the options one by one, as they stand on
the command line.
-/

namespace FileConfinement
namespace Command

/-- The directive that an option asks for. -/
def Setting.directive? : Setting → Option Directive
  | .path (.grant accessClass) value => some ⟨accessClass, value⟩
  | _ => none

theorem Setting.pathFor?_eq (accessClass : AccessClass) (setting : Setting) :
    setting.pathFor? accessClass =
      (setting.directive?.filter (·.accessClass = accessClass)).map Directive.path := by
  rcases setting with switch | ⟨switch, value⟩
  · rfl
  · cases switch with
    | grant other =>
        by_cases same : other = accessClass <;> simp [pathFor?, directive?, Option.filter, same]
    | _ => rfl

namespace PlacedDirective

/-- The directives that options ask for, each with the place of its option. -/
def ofList (list : List Setting) (start : Nat) : List PlacedDirective :=
  (list.zipIdx start).filterMap fun (setting, place) => setting.directive?.map (place, ·)

theorem ofList_cons (setting : Setting) (list : List Setting) (start : Nat) :
    ofList (setting :: list) start =
      (setting.directive?.map (start, ·)).toList ++ ofList list (start + 1) := by
  cases asked : setting.directive? <;> simp [ofList, asked]

theorem map_snd_ofList (list : List Setting) (start : Nat) :
    (ofList list start).map Prod.snd = list.filterMap Setting.directive? := by
  induction list generalizing start with
  | nil => rfl
  | cons setting list ih =>
      cases asked : setting.directive? <;> simp [ofList_cons, asked, ih]

theorem start_le_of_mem_ofList {list : List Setting} {start : Nat} {placed : PlacedDirective}
    (member : placed ∈ ofList list start) : start ≤ placed.1 := by
  simp only [ofList, List.mem_filterMap, Option.map_eq_some_iff] at member
  obtain ⟨⟨setting, place⟩, indexed, directive, _, rfl⟩ := member
  exact List.le_snd_of_mem_zipIdx indexed

/-- Places grow along the command line. -/
theorem pairwise_ofList (list : List Setting) (start : Nat) :
    (ofList list start).Pairwise fun first second => first.1 < second.1 := by
  induction list generalizing start with
  | nil => exact List.Pairwise.nil
  | cons setting list ih =>
      rw [ofList_cons]
      cases setting.directive? with
      | none => exact ih (start + 1)
      | some directive =>
          refine List.pairwise_cons.mpr ⟨?_, ih (start + 1)⟩
          intro placed member
          exact start_le_of_mem_ofList member

/-- Paths and places that are kept apart go together again. -/
theorem ofClass_eq_filter (list : List Setting) (accessClass : AccessClass) :
    ofClass list accessClass =
      (ofList list 0).filter fun placed => placed.2.accessClass = accessClass := by
  rw [ofClass, placesFor]
  generalize 0 = start
  induction list generalizing start with
  | nil => rfl
  | cons setting list ih =>
      rw [ofList_cons, List.filter_append, ← ih (start + 1)]
      cases asked : setting.directive? with
      | none => simp [pathsFor, Setting.pathFor?_eq, asked]
      | some directive =>
          by_cases same : directive.accessClass = accessClass
          · subst same
            simp [pathsFor, Setting.pathFor?_eq, asked, Option.filter]
          · simp [pathsFor, Setting.pathFor?_eq, asked, Option.filter, same]

theorem flatMap_ofClass_perm (list : List Setting) :
    (AccessClass.all.flatMap (ofClass list)).Perm (ofList list 0) := by
  refine List.perm_iff_count.mpr fun placed => ?_
  have count (accessClass : AccessClass) :
      (ofClass list accessClass).count placed =
        if placed.2.accessClass = accessClass then (ofList list 0).count placed else 0 := by
    rw [ofClass_eq_filter]
    split
    · rename_i same
      exact List.count_filter (by simpa using same)
    · rename_i different
      refine List.count_eq_zero.mpr fun member => different ?_
      simpa using (List.mem_filter.mp member).2
  cases named : placed.2.accessClass <;> simp [AccessClass.all, count, named]

theorem insert_perm (placed : PlacedDirective) (list : List PlacedDirective) :
    (insert placed list).Perm (placed :: list) := by
  induction list with
  | nil => exact .refl _
  | cons first list ih =>
      unfold insert
      split
      · exact .refl _
      · exact (ih.cons first).trans (.swap placed first list)

theorem sort_perm (list : List PlacedDirective) : (sort list).Perm list := by
  induction list with
  | nil => exact .refl _
  | cons placed list ih => exact (insert_perm placed _).trans (ih.cons placed)

theorem pairwise_insert {list : List PlacedDirective} (placed : PlacedDirective)
    (sorted : list.Pairwise fun first second => first.1 ≤ second.1) :
    (insert placed list).Pairwise fun first second => first.1 ≤ second.1 := by
  induction list with
  | nil => simp [insert]
  | cons first list ih =>
      obtain ⟨least, sorted⟩ := List.pairwise_cons.mp sorted
      unfold insert
      split
      · rename_i before
        refine List.pairwise_cons.mpr ⟨?_, List.pairwise_cons.mpr ⟨least, sorted⟩⟩
        rintro other (_ | ⟨_, member⟩)
        · exact before
        · exact before.trans (least other member)
      · rename_i behind
        refine List.pairwise_cons.mpr ⟨?_, ih sorted⟩
        intro other member
        rcases List.mem_cons.mp ((insert_perm placed list).mem_iff.mp member) with rfl | among
        · exact (Nat.lt_of_not_le behind).le
        · exact least other among

theorem pairwise_sort (list : List PlacedDirective) :
    (sort list).Pairwise fun first second => first.1 ≤ second.1 := by
  induction list with
  | nil => exact List.Pairwise.nil
  | cons placed list ih => exact pairwise_insert placed ih

/-- Sorting by place restores the order of the command line: no two options share a
place. -/
theorem sort_flatMap_ofClass (list : List Setting) :
    sort (AccessClass.all.flatMap (ofClass list)) = ofList list 0 := by
  have order := pairwise_ofList list 0
  have perm := (sort_perm _).trans (flatMap_ofClass_perm list)
  have places : ((ofList list 0).map Prod.fst).Nodup :=
    List.pairwise_map.mpr (order.imp Nat.ne_of_lt)
  refine perm.eq_of_pairwise ?_ (pairwise_sort _) (order.imp Nat.le_of_lt)
  intro first second member member' before behind
  exact List.inj_on_of_nodup_map places (perm.mem_iff.mp member) member'
    (Nat.le_antisymm before behind)

end PlacedDirective

/-- The directives come out one by one as their options stand on the command line. -/
theorem orderedDirectives_eq (list : List Setting) :
    orderedDirectives list = list.filterMap Setting.directive? := by
  rw [orderedDirectives, PlacedDirective.sort_flatMap_ofClass, PlacedDirective.map_snd_ofList]

end Command
end FileConfinement
