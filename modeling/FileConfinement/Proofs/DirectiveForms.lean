import FileConfinement.Proofs.PathComponents
import FileConfinement.Proofs.WrittenDocument

/-!
# Directives written and read again

A directive that is written as a line and read again comes back as it was, or with another
path, or not at all.  Which of the three it is depends on its path alone, and another path
never passes for the old one: the blanks that are trimmed and the bytes that are replaced are
part of its components.  A queue is read again entry by entry.
-/

namespace FileConfinement

open Document

/-- The path that a line of a shown path is read as passes for that path only if it is that
path. -/
theorem Path.isLinePath_of_sameComponents {path : Path}
    (same : (ofText (Text.trim path.display.toList)).SameComponents path)
    (filled : Text.trim path.display.toList ≠ []) : path.IsLinePath := by
  obtain ⟨text, rfl⟩ := exists_text_of_sameComponents same.symm
  rw [display_ofText, String.toList_ofList] at same filled
  have trimmed := isTrimmed_of_sameComponents same.symm
  rw [Text.trim_of_isTrimmed trimmed] at filled
  exact ⟨text, rfl, filled, trimmed⟩

namespace Directive

theorem ofString_display (directive : Directive) :
    ofString directive.display =
      if Text.trim directive.path.display.toList = [] then
        .error (.missingPath directive.accessClass.keyword.toList)
      else
        .ok ⟨directive.accessClass, .ofText (Text.trim directive.path.display.toList)⟩ := by
  rw [ofString, ofLine_display, Path.display, String.toList_ofList]

/-- A line that is read as a directive for the same components is read as the directive. -/
theorem exists_equivalent_iff (directive : Directive) :
    (∃ reread, ofString directive.display = .ok reread ∧ reread.Equivalent directive) ↔
      directive.path.IsLinePath := by
  constructor
  · rintro ⟨reread, read, _, same⟩
    rw [ofString_display] at read
    split at read
    · exact absurd read (by simp)
    · rename_i filled
      rw [← Except.ok.inj read] at same
      exact Path.isLinePath_of_sameComponents same filled
  · intro named
    exact ⟨directive, ofLine_display_of_isLinePath named, rfl, .refl _⟩

theorem ofString_display_eq_error_iff (directive : Directive) :
    (∃ fault, ofString directive.display = .error fault) ↔
      ∀ character ∈ directive.path.display.toList, Text.isBlank character = true := by
  rw [ofString_display, ← Text.trim_eq_nil_iff]
  split <;> simp_all

end Directive

namespace DirectiveQueue

/-- A written queue is read as the directives that its lines are read as. -/
theorem ofDocument_document_iff {queue result : DirectiveQueue} :
    ofDocument queue.document = .ok result ↔ Rereads queue result := by
  have whole (behind : List Char) :
      readQueue (writeQueue .compact queue) = .ok (result, behind) ↔
        Rereads queue result ∧ behind = [] := by
    simpa using @readQueue_writeQueue _ isBlank_compact [] IsSpaces.nil queue result [] behind
  rw [ofDocument, document, String.toList_ofList, Context.readWhole_eq_ok_iff]
  constructor
  · rintro ⟨space, _, read⟩
    exact ((whole space).mp read).1
  · intro rereads
    exact ⟨[], IsSpaces.nil, (whole []).mpr ⟨rereads, rfl⟩⟩

theorem exists_rereads_iff {queue : DirectiveQueue} :
    (∃ result, Rereads queue result) ↔
      ∀ entry ∈ queue, ∃ reread, Directive.ofString entry.display = .ok reread := by
  induction queue with
  | nil => simp [Rereads]
  | cons entry queue ih =>
      rw [List.forall_mem_cons, ← ih]
      simp only [Rereads, List.forall₂_cons_left_iff]
      constructor
      · rintro ⟨_, reread, others, read, rereads, rfl⟩
        exact ⟨⟨reread, read⟩, others, rereads⟩
      · rintro ⟨⟨reread, read⟩, others, rereads⟩
        exact ⟨_, reread, others, read, rereads, rfl⟩

theorem equivalent_self (queue : DirectiveQueue) : Equivalent queue queue := by
  induction queue with
  | nil => trivial
  | cons entry queue ih => exact ⟨⟨rfl, .refl _⟩, ih⟩

theorem Rereads.isLinePath {queue result : DirectiveQueue} (rereads : Rereads queue result)
    (equivalent : Equivalent result queue) : ∀ entry ∈ queue, entry.path.IsLinePath := by
  induction rereads with
  | nil => simp
  | @cons entry reread queue result read _ ih =>
      obtain ⟨same, others⟩ := equivalent
      refine List.forall_mem_cons.mpr ⟨?_, ih others⟩
      exact entry.exists_equivalent_iff.mp ⟨reread, read, same⟩

/-- A queue comes back exactly if a line can name the path of each entry. -/
theorem exists_equivalent_iff {queue : DirectiveQueue} :
    (∃ result, ofDocument queue.document = .ok result ∧ Equivalent result queue) ↔
      ∀ entry ∈ queue, entry.path.IsLinePath := by
  simp only [ofDocument_document_iff]
  constructor
  · rintro ⟨result, rereads, equivalent⟩
    exact Rereads.isLinePath rereads equivalent
  · intro named
    refine ⟨queue, List.forall₂_same.mpr fun entry member => ?_, equivalent_self queue⟩
    exact Directive.ofLine_display_of_isLinePath (named entry member)

theorem ofDocument_document_eq_error_iff {queue : DirectiveQueue} :
    (∃ error, ofDocument queue.document = .error error) ↔
      ∃ entry ∈ queue, ∃ fault, Directive.ofString entry.display = .error fault := by
  have failed : (∃ error, ofDocument queue.document = .error error) ↔
      ¬ ∃ result, Rereads queue result := by
    simp only [← ofDocument_document_iff]
    cases ofDocument queue.document <;> simp
  rw [failed, exists_rereads_iff]
  push Not
  refine exists_congr fun entry => and_congr_right fun _ => ?_
  cases Directive.ofString entry.display <;> simp

end DirectiveQueue

/-- A directive that is written and read again comes back exactly if a line can name its path,
is refused exactly if nothing but blanks is shown of its path, and becomes a directive for
other components in every other case.  A queue is refused exactly if one of its entries is,
and otherwise comes back with each entry read again.  What was read from a line comes back as
it was. -/
theorem directive_comes_back_in_three_ways (directive : Directive) (queue : DirectiveQueue) :
    let shown := directive.path.display.toList
    let reread := Directive.ofString directive.display
    ((∃ other, reread = .ok other ∧ other.Equivalent directive) ↔ directive.path.IsLinePath) ∧
    (directive.path.IsLinePath → reread = .ok directive) ∧
    ((∃ fault, reread = .error fault) ↔
      ∀ character ∈ shown, Text.isBlank character = true) ∧
    (¬ directive.path.IsLinePath → (∃ character ∈ shown, Text.isBlank character = false) →
      ∃ other, reread = .ok other ∧ other.accessClass = directive.accessClass ∧
        other.path = .ofText (Text.trim shown) ∧ ¬ other.Equivalent directive) ∧
    ((∃ error, DirectiveQueue.ofDocument queue.document = .error error) ↔
      ∃ entry ∈ queue, ∃ fault, Directive.ofString entry.display = .error fault) ∧
    (∀ result, DirectiveQueue.ofDocument queue.document = .ok result ↔
      List.Forall₂ (fun entry other => Directive.ofString entry.display = .ok other)
        queue result) ∧
    ((∃ result, DirectiveQueue.ofDocument queue.document = .ok result ∧
        DirectiveQueue.Equivalent result queue) ↔
      ∀ entry ∈ queue, entry.path.IsLinePath) ∧
    (∀ line, Directive.ofString line = .ok directive → reread = .ok directive) := by
  intro shown reread
  have exact' : directive.path.IsLinePath → reread = .ok directive :=
    Directive.ofLine_display_of_isLinePath
  refine ⟨directive.exists_equivalent_iff, exact', directive.ofString_display_eq_error_iff, ?_,
    DirectiveQueue.ofDocument_document_eq_error_iff,
    fun result => DirectiveQueue.ofDocument_document_iff,
    DirectiveQueue.exists_equivalent_iff, ?_⟩
  · rintro unnamed ⟨character, member, solid⟩
    have filled : Text.trim shown ≠ [] := by
      intro empty
      have blank := Text.trim_eq_nil_iff.mp empty character member
      exact Bool.false_ne_true (solid.symm.trans blank)
    have read : reread = .ok ⟨directive.accessClass, .ofText (Text.trim shown)⟩ :=
      directive.ofString_display.trans (if_neg filled)
    refine ⟨_, read, rfl, rfl, fun equivalent => unnamed ?_⟩
    exact directive.exists_equivalent_iff.mp ⟨_, read, equivalent⟩
  · exact fun line accepted => exact' (Directive.isLinePath_of_ofLine accepted)

/-- A path with an ill-formed byte behind a slash, and a queue of paths with a blank inside and
at the end. -/
theorem directive_comes_back_changed :
    let directive : Directive := ⟨.write, ⟨[47, 0xFF, 32]⟩⟩
    let queue : DirectiveQueue := [⟨.read, .ofString "/a b"⟩, ⟨.execute, .ofString "/c/. "⟩]
    ¬ directive.path.IsLinePath ∧
      (∃ other, Directive.ofString directive.display = .ok other ∧
        other.path = .ofString "/\uFFFD" ∧ ¬ other.Equivalent directive) ∧
      Directive.ofString "landlock.read /a b " = .ok ⟨.read, .ofString "/a b"⟩ ∧
      DirectiveQueue.ofDocument queue.document =
        .ok [⟨.read, .ofString "/a b"⟩, ⟨.execute, .ofString "/c/."⟩] ∧
      ¬ ∃ result, DirectiveQueue.ofDocument queue.document = .ok result ∧
        DirectiveQueue.Equivalent result queue := by
  intro directive queue
  obtain ⟨_, _, _, changed, _, read, returns, _⟩ :=
    directive_comes_back_in_three_ways directive queue
  have unnamed : ¬ directive.path.IsLinePath := by decide
  obtain ⟨other, reread, _, path, different⟩ := changed unnamed ⟨'\uFFFD', by decide, by decide⟩
  refine ⟨unnamed, ⟨other, reread, ?_, different⟩, by decide, (read _).mpr ?_, ?_⟩
  · rw [path]
    decide
  · exact .cons (by decide) (.cons (by decide) .nil)
  · intro came
    have named : (Path.ofString "/c/. ").IsLinePath :=
      returns.mp came ⟨.execute, .ofString "/c/. "⟩ (by simp [queue])
    exact absurd named (by decide)

end FileConfinement
