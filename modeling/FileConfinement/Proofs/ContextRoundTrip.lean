import FileConfinement.Proofs.WrittenDocument

/-!
# Contexts written and read back

A context can be written if its home and runtime directory are text.  What is written is read
back as the context exactly if a line can name the path of every rule, which is so for every
context that was read from a text.
-/

namespace FileConfinement
namespace Context

open Document

/-- A context whose home and runtime directory are text. -/
def IsWritable (context : Context) : Prop :=
  (∃ text, context.runtimeDirectory = .ofText text) ∧
    ∀ home ∈ context.home, ∃ text, home = .ofText text

theorem isSome_writePath?_iff {path : Path} :
    (writePath? path).isSome ↔ ∃ text, path = .ofText text := by
  simp only [writePath?, Option.isSome_map, Option.isSome_iff_exists, Path.text?_eq_some_iff]

theorem isSome_writeHome?_iff {home : Option Path} :
    (writeHome? home).isSome ↔ ∀ path ∈ home, ∃ text, path = .ofText text := by
  cases home with
  | none => simp [writeHome?]
  | some path => simp [writeHome?, isSome_writePath?_iff]

theorem isSome_document?_iff {layout : Layout} {context : Context} :
    (context.document? layout).isSome ↔ context.IsWritable := by
  rw [IsWritable, ← isSome_writeHome?_iff, ← isSome_writePath?_iff, document?, Option.isSome_map,
    write?]
  cases writeHome? context.home with
  | none => simp
  | some home => cases writePath? context.runtimeDirectory <;> simp

theorem IsWritable.exists_document? {context : Context} (writable : context.IsWritable)
    (layout : Layout) : ∃ text, context.document? layout = some text :=
  Option.isSome_iff_exists.mp (isSome_document?_iff.mpr writable)

/-- What is read from a written context, whatever the layout. -/
theorem ofText_document?_iff {layout : Layout} (blank : layout.IsBlank) {context result : Context}
    {text : String} (written : context.document? layout = some text) :
    ofText text = .ok result ↔
      ∃ rules, Rereads context.rules rules ∧ result = { context with rules := rules } := by
  obtain ⟨characters, isWritten, rfl⟩ := Option.map_eq_some_iff.mp written
  rw [ofText_eq_ok_iff, ofDocument, String.toList_ofList]
  exact readWhole_write blank isWritten

theorem rereads_self_iff {queue : DirectiveQueue} :
    Rereads queue queue ↔ ∀ directive ∈ queue, directive.path.IsLinePath := by
  rw [Rereads, List.forall₂_same]
  exact forall₂_congr fun directive _ => directive.ofLine_display_iff

theorem ofText_document?_self_iff {layout : Layout} (blank : layout.IsBlank) {context : Context}
    {text : String} (written : context.document? layout = some text) :
    ofText text = .ok context ↔ ∀ rule ∈ context.rules, rule.path.IsLinePath := by
  rw [ofText_document?_iff blank written, ← rereads_self_iff]
  constructor
  · rintro ⟨rules, rereads, same⟩
    rwa [same] at rereads ⊢
  · intro rereads
    exact ⟨context.rules, rereads, rfl⟩

/-! ### Contexts that were read -/

theorem exists_literal {α : Type} {spells : List Char → α → Prop} {first : Bool}
    {text : List Char} {values : List α} (items : Items spells first text values) :
    ∀ value ∈ values, ∃ literal, spells literal value := by
  induction items with
  | done => simp
  | item _ spelled _ ih => exact List.forall_mem_cons.mpr ⟨⟨_, spelled⟩, ih⟩

/-- The value of a field of a context that was read is the default or has a spelling. -/
theorem value_of_ofText {text : String} {context : Context} (read : ofText text = .ok context)
    (field : Field) :
    context.value field = default.value field ∨
      ∃ literal, SpellsValue field literal (context.value field) := by
  obtain ⟨entries, format, consists⟩ := ofDocument_eq_ok_iff.mp (ofText_eq_ok_iff.mp read)
  by_cases given : field ∈ entries.map Entry.field
  · obtain ⟨entry, member, rfl⟩ := List.mem_map.mp given
    rw [consists.given entry member]
    rcases format with ⟨⟨_, _, _, _, _, _, items⟩, _⟩ | ⟨⟨_, _, _, _, _, _, items⟩, _⟩
    · obtain ⟨_, _, _, _, literal, _, _, _, _, spelled⟩ := exists_literal items entry member
      exact .inr ⟨literal, spelled⟩
    · obtain ⟨literal, spelled⟩ := exists_literal items entry member
      exact .inr ⟨literal, spelled⟩
  · exact .inl (consists.others field given)

theorem isWritable_of_ofText {text : String} {context : Context}
    (read : ofText text = .ok context) : context.IsWritable := by
  refine ⟨?_, fun home isHome => ?_⟩
  · rcases value_of_ofText read .runtimeDirectory with same | ⟨literal, path, _, same⟩
    · exact ⟨_, same⟩
    · exact ⟨path, same⟩
  · rcases value_of_ofText read .home with same | ⟨literal, spelled⟩
    · change context.home = none at same
      simp [same] at isHome
    · change SpellsOptional SpellsPath literal context.home at spelled
      rw [Option.mem_def.mp isHome] at spelled
      obtain ⟨path, _, same⟩ := spelled
      exact ⟨path, same⟩

theorem isLinePath_of_ofText {text : String} {context : Context}
    (read : ofText text = .ok context) : ∀ rule ∈ context.rules, rule.path.IsLinePath := by
  intro rule member
  rcases value_of_ofText read .rules with same | ⟨literal, inner, _, items⟩
  · change context.rules = [] at same
    simp [same] at member
  · obtain ⟨_, line, _, accepted⟩ := exists_literal items rule member
    exact Directive.isLinePath_of_ofLine accepted

/-- A context is written exactly if its home and runtime directory are text.  Either document
is read as the context exactly if a line can name the path of each rule, and what one of them
is read as, the other is read as.  A context that was read from a text is written and read
back. -/
theorem context_is_read_back (context : Context) :
    (∀ layout ∈ [Layout.compact, Layout.indented],
      (context.document? layout).isSome ↔ context.IsWritable) ∧
    (∀ layout ∈ [Layout.compact, Layout.indented], ∀ text,
      context.document? layout = some text →
        (ofText text = .ok context ↔ ∀ rule ∈ context.rules, rule.path.IsLinePath)) ∧
    (∀ compact indented, context.document? .compact = some compact →
      context.document? .indented = some indented →
        (ofText compact).toOption = (ofText indented).toOption) ∧
    (∀ text, ofText text = .ok context → ∀ layout ∈ [Layout.compact, Layout.indented],
      ∃ written, context.document? layout = some written ∧ ofText written = .ok context) := by
  refine ⟨fun layout _ => isSome_document?_iff, fun layout named text written => ?_, ?_, ?_⟩
  · exact ofText_document?_self_iff (isBlank_of_mem named) written
  · intro compact indented writtenCompact writtenIndented
    apply Option.ext
    intro result
    have same : ofText compact = .ok result ↔ ofText indented = .ok result :=
      (ofText_document?_iff isBlank_compact writtenCompact).trans
        (ofText_document?_iff isBlank_indented writtenIndented).symm
    simpa [toOption_eq_some_iff] using same
  · intro text read layout named
    obtain ⟨written, isWritten⟩ := (isWritable_of_ofText read).exists_document? layout
    refine ⟨written, isWritten, ?_⟩
    exact (ofText_document?_self_iff (isBlank_of_mem named) isWritten).mpr
      (isLinePath_of_ofText read)

theorem context_is_read_back_with_quotes :
    let context : Context :=
      { default with
        home := some (.ofString "/home/\"a\"\n"), rules := [⟨.write, .ofString "/srv/a \\ b"⟩] }
    ∃ compact indented, context.document? .compact = some compact ∧
      context.document? .indented = some indented ∧ ofText compact = .ok context ∧
      ofText indented = .ok context ∧ (ofText compact).toOption = (ofText indented).toOption := by
  intro context
  obtain ⟨writes, reads, same, survives⟩ := context_is_read_back context
  have isWritable : context.IsWritable :=
    ⟨⟨"/run/confine".toList, rfl⟩, by
      intro home isHome
      rw [← Option.some.inj isHome]
      exact ⟨"/home/\"a\"\n".toList, rfl⟩⟩
  have named : ∀ rule ∈ context.rules, rule.path.IsLinePath := by
    intro rule member
    rw [List.mem_singleton.mp member]
    exact ⟨"/srv/a \\ b".toList, rfl, by decide, by decide⟩
  obtain ⟨compact, isCompact⟩ :=
    Option.isSome_iff_exists.mp ((writes .compact List.mem_cons_self).mpr isWritable)
  have read := (reads .compact List.mem_cons_self compact isCompact).mpr named
  obtain ⟨indented, isIndented, read'⟩ := survives compact read .indented (by simp)
  exact ⟨compact, indented, isCompact, isIndented, read, read',
    same compact indented isCompact isIndented⟩

end Context
end FileConfinement
