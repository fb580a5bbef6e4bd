import FileConfinement.Context.Host
import FileConfinement.Proofs.ContextReader
import FileConfinement.Proofs.Kernel

/-!
# The accepted documents

A text is accepted as a context exactly if it is a document of the format, and the context
has the values that the document gives and the default values otherwise.  The order of the
members of a map does not matter, and a file is read like the text in it.
-/

namespace FileConfinement
namespace Context

open Document

@[simp] theorem value_set (context : Context) (field : Field) (value : field.Value) :
    (context.set field value).value field = value := by
  cases field <;> rfl

theorem value_set_of_ne (context : Context) {field other : Field} (differ : other ≠ field)
    (value : field.Value) : (context.set field value).value other = context.value other := by
  cases field <;> cases other <;> first | rfl | exact absurd rfl differ

theorem eq_of_value_eq {first second : Context}
    (same : ∀ field, first.value field = second.value field) : first = second := by
  obtain ⟨baseline, home, uid, runtimeDirectory, rules⟩ := first
  congr
  · exact same .baseline
  · exact same .home
  · exact same .uid
  · exact same .runtimeDirectory
  · exact same .rules

/-- Entries for distinct fields are all found in the context they are stored in, and the other
fields are as before. -/
theorem value_foldl_store (entries : List Entry) (context : Context)
    (distinct : (entries.map Entry.field).Nodup) :
    (∀ entry ∈ entries, (entries.foldl store context).value entry.field = entry.value) ∧
      ∀ field, field ∉ entries.map Entry.field →
        (entries.foldl store context).value field = context.value field := by
  induction entries generalizing context with
  | nil => simp
  | cons entry entries ih =>
      rw [List.map_cons, List.nodup_cons] at distinct
      obtain ⟨given, others⟩ := ih (context.store entry) distinct.2
      refine ⟨List.forall_mem_cons.mpr ⟨?_, given⟩, ?_⟩
      · rw [List.foldl_cons, others entry.field distinct.1]
        exact value_set context entry.field entry.value
      · intro field absent
        rw [List.map_cons, List.mem_cons, not_or] at absent
        rw [List.foldl_cons, others field absent.2]
        exact value_set_of_ne context absent.1 entry.value

theorem consists_foldl_store {entries : List Entry}
    (distinct : (entries.map Entry.field).Nodup) :
    (entries.foldl store default).Consists entries :=
  ⟨(value_foldl_store entries default distinct).1, (value_foldl_store entries default distinct).2⟩

/-- The values that are given determine a context, in whatever order they are given. -/
theorem Consists.eq_of_perm {first second : Context} {entries entries' : List Entry}
    (isFirst : first.Consists entries) (isSecond : second.Consists entries')
    (permuted : entries.Perm entries') : first = second := by
  apply eq_of_value_eq
  intro field
  by_cases given : field ∈ entries.map Entry.field
  · obtain ⟨entry, member, rfl⟩ := List.mem_map.mp given
    rw [isFirst.given entry member, isSecond.given entry (permuted.mem_iff.mp member)]
  · rw [isFirst.others field given,
      isSecond.others field fun member => given ((permuted.map Entry.field).mem_iff.mpr member)]

theorem nodup_of_format {text : List Char} {entries : List Entry}
    (format : IsMap text entries ∨ IsList text entries) : (entries.map Entry.field).Nodup := by
  rcases format with isMap | isList
  · exact isMap.2
  · exact isList.2.sublist.nodup (by decide)

/-- A document of the format is read as the context that has its values. -/
theorem ofDocument_eq_ok_iff {text : String} {context : Context} :
    ofDocument text = .ok context ↔
      ∃ entries, (IsMap text.toList entries ∨ IsList text.toList entries) ∧
        context.Consists entries := by
  constructor
  · intro accepted
    obtain ⟨entries, format, rfl⟩ := format_of_read accepted
    exact ⟨entries, format, consists_foldl_store (nodup_of_format format)⟩
  · rintro ⟨entries, format, consists⟩
    have stored := consists_foldl_store (nodup_of_format format)
    rw [consists.eq_of_perm stored (List.Perm.refl entries)]
    exact format.elim read_map read_list

theorem ofText_eq_ok_iff {text : String} {context : Context} :
    ofText text = .ok context ↔ ofDocument text = .ok context := by
  unfold ofText
  cases ofDocument text <;> simp [Except.mapError]

theorem ofText_eq_error {text : String} {failure : Failure}
    (refused : ofText text = .error failure) :
    ∃ error, failure = .configuration (.document error) := by
  unfold ofText at refused
  cases read : ofDocument text with
  | ok context => simp [read, Except.mapError] at refused
  | error error =>
      rw [read] at refused
      exact ⟨error, (Except.error.inj refused).symm⟩

/-- A file that holds a text is read like the text. -/
theorem load_of_text {host : Host} {path : Path} {text : String}
    (content : host.readFile path = .ok (Utf8.encode text.toList)) :
    load host path = (ofText text).mapError (Failure.inFile path) := by
  have readable : host.readTextFile path = .ok text := by
    rw [Host.readTextFile, content]
    simp [bind, Except.bind, Utf8.decode?_encode]
  rw [load, readable]

theorem load_of_unreadable {host : Host} {path : Path} {fault : IoFault}
    (refused : host.readFile path = .error fault) : load host path = .error (.io fault) := by
  have unreadable : host.readTextFile path = .error fault := by
    rw [Host.readTextFile, refused]
    rfl
  rw [load, unreadable]

theorem message_inFile (path : Path) (error : Document.Error) :
    (ConfigurationFault.file path error).message =
      path.display ++ ": " ++ (ConfigurationFault.document error).message := by
  unfold ConfigurationFault.message
  dsimp only [toString]

/-- A text is accepted exactly if it is a map of distinct fields or a list of the first
fields.  What it gives is found in the context, everything else has its default, and the
order of a map does not matter.  A text that is refused is an invalid configuration.  A file
that holds the text gives the same context, or the same message behind the name of the
file. -/
theorem text_is_read_exactly (text : String) :
    ((∃ context, ofText text = .ok context) ↔
      ∃ entries, IsMap text.toList entries ∨ IsList text.toList entries) ∧
    (∀ context, ofText text = .ok context ↔
      ∃ entries, (IsMap text.toList entries ∨ IsList text.toList entries) ∧
        context.Consists entries) ∧
    (∀ (entries entries' : List Entry) (permuted : String), IsMap text.toList entries →
      IsMap permuted.toList entries' → entries.Perm entries' → ofText permuted = ofText text) ∧
    (∀ failure, ofText text = .error failure → ∃ fault, failure = .configuration fault) ∧
    (∀ (host : Host) (path : Path), host.readFile path = .ok (Utf8.encode text.toList) →
      (∀ context, ofText text = .ok context → load host path = .ok context) ∧
      ∀ fault, ofText text = .error (.configuration fault) →
        ∃ located, load host path = .error (.configuration located) ∧
          located.message = path.display ++ ": " ++ fault.message) := by
  have accepted : ∀ text context, ofText text = .ok context ↔
      ∃ entries, (IsMap text.toList entries ∨ IsList text.toList entries) ∧
        context.Consists entries := fun text context =>
    ofText_eq_ok_iff.trans ofDocument_eq_ok_iff
  refine ⟨⟨?_, ?_⟩, accepted text, ?_, ?_, ?_⟩
  · rintro ⟨context, read⟩
    obtain ⟨entries, format, _⟩ := (accepted text context).mp read
    exact ⟨entries, format⟩
  · rintro ⟨entries, format⟩
    have consists := consists_foldl_store (nodup_of_format format)
    exact ⟨_, (accepted text _).mpr ⟨entries, format, consists⟩⟩
  · intro entries entries' permuted isMap isMap' same
    have consists := consists_foldl_store isMap.2
    have consists' := consists_foldl_store isMap'.2
    have read := (accepted text _).mpr ⟨entries, .inl isMap, consists⟩
    have read' := (accepted permuted _).mpr ⟨entries', .inl isMap', consists'⟩
    rw [read, read', consists.eq_of_perm consists' same]
  · intro failure refused
    obtain ⟨error, rfl⟩ := ofText_eq_error refused
    exact ⟨.document error, rfl⟩
  · intro host path content
    have loaded := load_of_text content
    refine ⟨fun context read => ?_, fun fault refused => ?_⟩
    · rw [loaded, read]
      rfl
    · obtain ⟨error, same⟩ := ofText_eq_error refused
      have isDocument : fault = .document error := Failure.configuration.inj same
      refine ⟨.file path error, ?_, ?_⟩
      · rw [loaded, refused, isDocument]
        rfl
      · rw [isDocument]
        exact message_inFile path error

theorem text_is_read_exactly_in_any_order :
    let text := "\x7b\"uid\":7,\"baseline\":false\x7d"
    let permuted := "\x7b \"baseline\": false, \"uid\": 7 \x7d"
    let path := Path.ofString "/etc/a.json"
    let host := { Host.willing [] with
      files := [⟨path, none, none, none, some (Utf8.encode text.toList)⟩] }
    let broken := { Host.willing [] with files := [⟨path, none, none, none, some []⟩] }
    ∃ context, context.baseline = false ∧ context.uid = some 7 ∧ ofText text = .ok context ∧
      ofText permuted = .ok context ∧ load host path = .ok context ∧
      ∃ located, load broken path = .error (.configuration located) ∧
        located.message = "/etc/a.json: EOF while parsing a value at line 1 column 0" := by
  intro text permuted path host broken
  have uid : SpellsEntry ['7'] ⟨.uid, some 7⟩ := rfl
  have baseline : SpellsEntry "false".toList ⟨.baseline, false⟩ := rfl
  have uidMember : ∀ space, IsSpaces space →
      SpellsMember ("\"uid\":".toList ++ (space ++ ['7'])) ⟨.uid, some 7⟩ := fun space spaces =>
    ⟨_, [], space, ['7'], rfl, spellsText_writeText _, IsSpaces.nil, spaces, uid⟩
  have baselineMember : ∀ space, IsSpaces space →
      SpellsMember ("\"baseline\":".toList ++ (space ++ "false".toList)) ⟨.baseline, false⟩ :=
    fun space spaces =>
      ⟨_, [], space, "false".toList, rfl, spellsText_writeText _, IsSpaces.nil, spaces, baseline⟩
  have blank : IsSpaces [' '] := by simp [IsSpaces, isSpace]
  have empty : Separates true [] := IsSpaces.nil
  have lead : Separates true [' '] := blank
  have comma : Separates false [','] := ⟨[], [], rfl, IsSpaces.nil, IsSpaces.nil⟩
  have commaBlank : Separates false [',', ' '] := ⟨[], [' '], rfl, IsSpaces.nil, blank⟩
  have isMap : IsMap text.toList [⟨.uid, some 7⟩, ⟨.baseline, false⟩] := by
    refine ⟨⟨[], "\"uid\":7,\"baseline\":false".toList, [], ?_, IsSpaces.nil, IsSpaces.nil, ?_⟩,
      by decide⟩
    · decide
    · have behind : Items SpellsMember false
          ([','] ++ ("\"baseline\":".toList ++ ([] ++ "false".toList)) ++ [])
          [⟨.baseline, false⟩] :=
        .item comma (baselineMember [] IsSpaces.nil) (.done IsSpaces.nil)
      exact Items.item empty (uidMember [] IsSpaces.nil) behind
  have isMap' : IsMap permuted.toList [⟨.baseline, false⟩, ⟨.uid, some 7⟩] := by
    refine ⟨⟨[], " \"baseline\": false, \"uid\": 7 ".toList, [], ?_, IsSpaces.nil, IsSpaces.nil,
      ?_⟩, by decide⟩
    · decide
    · have behind : Items SpellsMember false
          ([',', ' '] ++ ("\"uid\":".toList ++ ([' '] ++ ['7'])) ++ [' ']) [⟨.uid, some 7⟩] :=
        .item commaBlank (uidMember [' '] blank) (.done blank)
      exact Items.item lead (baselineMember [' '] blank) behind
  obtain ⟨_, accepted, order, _, files⟩ := text_is_read_exactly text
  obtain ⟨_, _, _, _, brokenFiles⟩ := text_is_read_exactly ""
  have read := (accepted _).mpr ⟨_, .inl isMap, consists_foldl_store isMap.2⟩
  have content : host.readFile path = .ok (Utf8.encode text.toList) := by rfl
  have brokenContent : broken.readFile path = .ok (Utf8.encode "".toList) := by rfl
  obtain ⟨located, loaded, message⟩ :=
    (brokenFiles broken path brokenContent).2 (.document ⟨.endOfValue, ⟨1, 0⟩⟩) rfl
  refine ⟨_, rfl, rfl, read, ?_, (files host path content).1 _ read, located, loaded, ?_⟩
  · rw [order _ _ permuted isMap isMap' (.swap _ _ _), read]
  · rw [message]
    decide

end Context
end FileConfinement
