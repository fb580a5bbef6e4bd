import FileConfinement.Proofs.ValueReaders

/-!
# Reading contexts

The reader of contexts accepts exactly the maps and the lists of the format, and stores the
values in the fields that they are given for.
-/

namespace FileConfinement
namespace Context

open Document

/-- A context with the value of one field replaced. -/
def set (context : Context) : (field : Field) → field.Value → Context
  | .baseline, value => { context with baseline := value }
  | .home, value => { context with home := value }
  | .uid, value => { context with uid := value }
  | .runtimeDirectory, value => { context with runtimeDirectory := value }
  | .rules, value => { context with rules := value }

/-- A context with a field replaced by an entry. -/
def store (context : Context) (entry : Entry) : Context :=
  context.set entry.field entry.value

theorem reads_field (field : Field) (context : Context) :
    Reads (readField field context) fun literal next =>
      ∃ value, SpellsValue field literal value ∧ next = context.set field value := by
  cases field with
  | baseline => exact reads_boolean.map (context.set .baseline)
  | home => exact reads_home.map (context.set .home)
  | uid => exact reads_uid.map (context.set .uid)
  | runtimeDirectory => exact reads_path.map (context.set .runtimeDirectory)
  | rules => exact reads_queue.map (context.set .rules)

theorem readField_append (context : Context) {entry : Entry} {space literal rest : List Char}
    (spaces : IsSpaces space) (spelled : SpellsEntry literal entry) (ends : EndsValue rest) :
    readField entry.field context (space ++ (literal ++ rest)) =
      .ok (context.store entry, rest) :=
  (reads_field entry.field context).complete spaces ⟨entry.value, spelled, rfl⟩ ends

theorem startsValue_of_spellsEntry {literal : List Char} {entry : Entry}
    (spelled : SpellsEntry literal entry) : StartsValue literal :=
  (reads_field entry.field default).starts ⟨entry.value, spelled, rfl⟩

/-! ### Lists of values -/

/-- The values of a list are stored in the fields in their order. -/
theorem readElements_append {fields : List Field} {first : Bool} (context : Context)
    {text : List Char} {entries : List Entry} (items : Items SpellsEntry first text entries)
    (inOrder : entries.map Entry.field <+: fields) (rest : List Char) :
    ∃ space, IsSpaces space ∧
      readElements fields first context (text ++ ']' :: rest) =
        .ok (entries.foldl store context, space ++ ']' :: rest) := by
  induction items generalizing fields context with
  | @done first space spaces =>
      refine ⟨space, spaces, ?_⟩
      cases fields with
      | nil => rfl
      | cons field fields =>
          rw [readElements, nextElement_end first spaces rest]
          rfl
  | @item first separator literal more entry entries separates spelled others ih =>
      cases fields with
      | nil => simp at inOrder
      | cons field fields =>
          rw [List.map_cons, List.cons_prefix_cons] at inOrder
          obtain ⟨rfl, inOrder⟩ := inOrder
          obtain ⟨space, spaces, read⟩ := ih (context.store entry) inOrder
          refine ⟨space, spaces, ?_⟩
          have element := readField_append context IsSpaces.nil spelled
            (others.endsValue (.inl rfl) rest)
          rw [List.nil_append] at element
          simp only [List.append_assoc]
          rw [readElements, nextElement_append separates (startsValue_of_spellsEntry spelled)]
          simp only [element, read]
          rfl

theorem items_of_readElements {fields : List Field} {first : Bool} {context result : Context}
    {unread behind rest : List Char}
    (accepted : readElements fields first context unread = .ok (result, behind))
    (ended : endList behind = .ok rest) :
    ∃ text entries, unread = text ++ ']' :: rest ∧ Items SpellsEntry first text entries ∧
      entries.map Entry.field <+: fields ∧ result = entries.foldl store context := by
  induction fields generalizing first context unread with
  | nil =>
      obtain ⟨rfl, rfl⟩ := Prod.mk.inj (Except.ok.inj accepted)
      obtain ⟨space, whole, spaces⟩ := spaces_of_endList ended
      exact ⟨space, [], whole, .done spaces, List.prefix_rfl, rfl⟩
  | cons field fields ih =>
      rw [readElements] at accepted
      split at accepted
      · simp at accepted
      · obtain ⟨rfl, rfl⟩ := Prod.mk.inj (Except.ok.inj accepted)
        obtain ⟨space, whole, spaces⟩ := spaces_of_endList ended
        exact ⟨space, [], whole, .done spaces, List.nil_prefix, rfl⟩
      · rename_i element next
        split at accepted
        · simp at accepted
        · rename_i next' left read
          obtain ⟨separator, rfl, separates⟩ := separates_of_nextElement next
          obtain ⟨blank, literal, rfl, blanks, value, spelled, rfl⟩ :=
            (reads_field field context).sound read
          obtain ⟨text, entries, rfl, items, inOrder, rfl⟩ := ih accepted
          refine ⟨separator ++ blank ++ literal ++ text, ⟨field, value⟩ :: entries, by simp, ?_,
            ?_, rfl⟩
          · exact .item (separates.append_spaces blanks) spelled items
          · exact List.cons_prefix_cons.mpr ⟨rfl, inOrder⟩

/-! ### Maps of fields -/

theorem nextKey_comma {space : List Char} (spaces : IsSpaces space) (behind : List Char) :
    nextKey false (space ++ ',' :: behind) =
      match skipSpace behind with
      | [] => .error (.before .endOfValue [])
      | '"' :: rest => .ok (some rest)
      | '}' :: rest => .error (.past .trailingComma ('}' :: rest))
      | rest => .error (.past .expectedKey rest) := by
  rw [nextKey, skipSpace_append spaces, skipSpace_cons (by decide)]
  rfl

theorem nextKey_append {first : Bool} {separator : List Char}
    (separates : Separates first separator) (rest : List Char) :
    nextKey first (separator ++ '"' :: rest) = .ok (some rest) := by
  cases first with
  | true =>
      rw [nextKey, skipSpace_append separates, skipSpace_cons (by decide)]
      rfl
  | false =>
      obtain ⟨before, behind, rfl, spaces, spaces'⟩ := separates
      rw [List.append_assoc, List.cons_append, nextKey_comma spaces, skipSpace_append spaces',
        skipSpace_cons (by decide)]
      rfl

theorem nextKey_end (first : Bool) {space : List Char} (spaces : IsSpaces space)
    (rest : List Char) : nextKey first (space ++ '}' :: rest) = .ok none := by
  rw [nextKey, skipSpace_append spaces, skipSpace_cons (by decide)]
  rfl

theorem separates_of_nextKey {first : Bool} {unread behind : List Char}
    (next : nextKey first unread = .ok (some behind)) :
    ∃ separator, unread = separator ++ '"' :: behind ∧ Separates first separator := by
  obtain ⟨space, whole, spaces⟩ := exists_spaces unread
  unfold nextKey at next
  split at next
  · simp at next
  · simp at next
  · rename_i character rest _ skipped
    rw [skipped] at whole
    split at next
    · rename_i isFirst
      split at next
      · rename_i isQuote
        obtain rfl := Option.some.inj (Except.ok.inj next)
        exact ⟨space, by rw [whole, isQuote], by rw [isFirst]; exact spaces⟩
      · simp at next
    · rename_i later
      split at next
      · rename_i comma
        obtain ⟨space', whole', spaces'⟩ := exists_spaces rest
        split at next
        · simp at next
        · rename_i skipped'
          obtain rfl := Option.some.inj (Except.ok.inj next)
          refine ⟨space ++ ',' :: space', ?_, ?_⟩
          · rw [whole, comma, List.append_assoc, List.cons_append, ← skipped', ← whole']
          · rw [Bool.not_eq_true] at later
            rw [later]
            exact ⟨space, space', rfl, spaces, spaces'⟩
        · simp at next
        · simp at next
      · simp at next

theorem spaces_of_nextKey {first : Bool} {unread : List Char}
    (next : nextKey first unread = .ok none) :
    ∃ space rest, unread = space ++ '}' :: rest ∧ IsSpaces space := by
  obtain ⟨space, whole, spaces⟩ := exists_spaces unread
  unfold nextKey at next
  split at next
  · simp at next
  · rename_i rest skipped
    exact ⟨space, rest, by rw [whole, skipped], spaces⟩
  · split at next
    · split at next <;> simp at next
    · split at next
      · split at next <;> simp at next
      · simp at next

theorem readColon_append {space : List Char} (spaces : IsSpaces space) (rest : List Char) :
    readColon (space ++ ':' :: rest) = .ok rest := by
  rw [readColon, skipSpace_append spaces, skipSpace_cons (by decide)]
  rfl

theorem spaces_of_readColon {unread rest : List Char} (read : readColon unread = .ok rest) :
    ∃ space, unread = space ++ ':' :: rest ∧ IsSpaces space := by
  obtain ⟨space, whole, spaces⟩ := exists_spaces unread
  unfold readColon at read
  split at read
  · simp at read
  · rename_i behind skipped
    obtain rfl := Except.ok.inj read
    exact ⟨space, by rw [whole, skipped], spaces⟩
  · simp at read

theorem endMap_append {space : List Char} (spaces : IsSpaces space) (rest : List Char) :
    endMap (space ++ '}' :: rest) = .ok rest := by
  rw [endMap, skipSpace_append spaces, skipSpace_cons (by decide)]
  rfl

theorem ofKey?_eq_some_iff {key : List Char} {field : Field} :
    Field.ofKey? key = some field ↔ key = field.key.toList := by
  constructor
  · intro found
    simpa [eq_comm] using List.find?_some found
  · rintro rfl
    exact Field.ofKey?_key field

theorem readMembers_end {missing : List Field} {first : Bool} {context : Context}
    {unread : List Char} (next : nextKey first unread = .ok none) :
    readMembers missing first context unread = .ok (context, unread) := by
  rw [readMembers]
  simp only [next]

/-- Behind the key of a missing field its value is read, and the field is missing no longer. -/
theorem readMembers_key {missing : List Field} {first : Bool} (context : Context)
    {separator key before rest : List Char} {field : Field}
    (separates : Separates first separator) (named : SpellsText key field.key.toList)
    (spaces : IsSpaces before) (isMissing : field ∈ missing) :
    readMembers missing first context (separator ++ (key ++ (before ++ ':' :: rest))) =
      match readField field context rest with
      | .error fault => .error fault
      | .ok (context, rest) => readMembers (missing.erase field) false context rest := by
  obtain ⟨inner, rfl, quoted⟩ := named
  have whole : separator ++ ('"' :: inner ++ ['"'] ++ (before ++ ':' :: rest)) =
      separator ++ '"' :: (inner ++ '"' :: (before ++ ':' :: rest)) := by
    simp
  rw [whole, readMembers, nextKey_append separates]
  simp only [readQuoted_append quoted, Field.ofKey?_key, dif_pos isMissing,
    readColon_append spaces]
  rfl

/-- A spelled member is stored. -/
theorem readMembers_member {missing : List Field} {first : Bool} (context : Context)
    {separator literal rest : List Char} {entry : Entry} (separates : Separates first separator)
    (spelled : SpellsMember literal entry) (isMissing : entry.field ∈ missing)
    (ends : EndsValue rest) :
    readMembers missing first context (separator ++ (literal ++ rest)) =
      readMembers (missing.erase entry.field) false (context.store entry) rest := by
  obtain ⟨key, before, behind, value, rfl, named, spaces, spaces', spells⟩ := spelled
  have whole : key ++ before ++ ':' :: (behind ++ value) ++ rest =
      key ++ (before ++ ':' :: (behind ++ (value ++ rest))) := by
    simp
  rw [whole, readMembers_key context separates named spaces isMissing,
    readField_append context spaces' spells ends]

theorem readMembers_append {missing : List Field} {first : Bool} (context : Context)
    {text : List Char} {entries : List Entry} (items : Items SpellsMember first text entries)
    (distinct : (entries.map Entry.field).Nodup)
    (areMissing : ∀ entry ∈ entries, entry.field ∈ missing) (rest : List Char) :
    ∃ space, IsSpaces space ∧
      readMembers missing first context (text ++ '}' :: rest) =
        .ok (entries.foldl store context, space ++ '}' :: rest) := by
  -- on the members: those behind one are for other fields, so theirs are still missing
  induction items generalizing missing context with
  | @done first space spaces =>
      exact ⟨space, spaces, readMembers_end (nextKey_end first spaces rest)⟩
  | @item first separator literal more entry entries separates spelled others ih =>
      rw [List.map_cons, List.nodup_cons] at distinct
      rw [List.forall_mem_cons] at areMissing
      have stillMissing : ∀ other ∈ entries, other.field ∈ missing.erase entry.field := by
        intro other member
        refine (List.mem_erase_of_ne fun same => distinct.1 ?_).mpr (areMissing.2 other member)
        rw [← same]
        exact List.mem_map_of_mem member
      obtain ⟨space, spaces, read⟩ := ih (context.store entry) distinct.2 stillMissing
      refine ⟨space, spaces, ?_⟩
      simp only [List.append_assoc]
      rw [readMembers_member context separates spelled areMissing.1
        (others.endsValue (.inr rfl) rest), read]
      rfl

theorem items_of_readMembers {missing : List Field} {first : Bool} {context result : Context}
    {unread behind : List Char} (distinct : missing.Nodup)
    (accepted : readMembers missing first context unread = .ok (result, behind)) :
    ∃ text space rest entries, unread = text ++ '}' :: rest ∧ behind = space ++ '}' :: rest ∧
      IsSpaces space ∧ Items SpellsMember first text entries ∧
      (entries.map Entry.field).Nodup ∧ (∀ entry ∈ entries, entry.field ∈ missing) ∧
      result = entries.foldl store context := by
  -- along the reader, which takes a field off the missing ones with each member it stores
  fun_induction readMembers missing first context unread generalizing result behind with
  | case1 => simp at accepted
  | case2 missing first context unread next =>
      obtain ⟨rfl, rfl⟩ := Prod.mk.inj (Except.ok.inj accepted)
      obtain ⟨space, rest, whole, spaces⟩ := spaces_of_nextKey next
      exact ⟨space, space, rest, [], whole, whole, spaces, .done spaces, by simp, by simp, rfl⟩
  | case3 => simp at accepted
  | case4 => simp at accepted
  | case5 => simp at accepted
  | case6 missing first context unread behind next key afterKey quoted field named isMissing
      shorter next' left read ih =>
      obtain ⟨separator, rfl, separates⟩ := separates_of_nextKey next
      obtain ⟨inner, rfl, spelled⟩ := spellsChars_of_readQuoted quoted
      obtain ⟨afterColon, colon, stored⟩ := bind_eq_ok_iff.mp read
      obtain ⟨before, rfl, spaces⟩ := spaces_of_readColon colon
      obtain ⟨after, literal, rfl, spaces', value, spells, rfl⟩ :=
        (reads_field field context).sound stored
      obtain ⟨text, space, rest, entries, rfl, rfl, blanks, items, others, stillMissing, rfl⟩ :=
        ih (distinct.erase field) accepted
      obtain rfl := ofKey?_eq_some_iff.mp named
      have only : ∀ entry ∈ entries, entry.field ≠ field ∧ entry.field ∈ missing :=
        fun entry member => distinct.mem_erase_iff.mp (stillMissing entry member)
      refine ⟨separator ++ ('"' :: inner ++ ['"'] ++ before ++ ':' :: (after ++ literal)) ++ text,
        space, rest, ⟨field, value⟩ :: entries, by simp, rfl, blanks, ?_, ?_, ?_, rfl⟩
      · exact .item separates ⟨_, before, after, literal, rfl, ⟨inner, rfl, spelled⟩, spaces,
          spaces', spells⟩ items
      · refine List.nodup_cons.mpr ⟨?_, others⟩
        rintro member
        obtain ⟨entry, member, same⟩ := List.mem_map.mp member
        exact (only entry member).1 same
      · exact List.forall_mem_cons.mpr ⟨isMissing, fun entry member => (only entry member).2⟩
  | case7 => simp at accepted

/-! ### Whole documents -/

/-- The reader accepts a text as a whole when it leaves nothing but space. -/
theorem readWhole_eq_ok_iff {α : Type} {read : List Char → Except Fault (α × List Char)}
    {text : List Char} {value : α} :
    readWhole read text = .ok value ↔
      ∃ space, IsSpaces space ∧ read text = .ok (value, space) := by
  unfold readWhole
  split
  · rename_i failed
    simp [failed]
  · rename_i value' rest accepted
    simp only [accepted, Except.ok.injEq, Prod.mk.injEq]
    split
    · rename_i blank
      rw [skipSpace_eq_nil_iff] at blank
      simp only [Except.ok.injEq]
      exact ⟨fun same => ⟨rest, blank, same, rfl⟩, fun ⟨_, _, same, _⟩ => same⟩
    · rename_i visible
      simp only [reduceCtorEq, false_iff, not_exists, not_and]
      rintro space spaces _ rfl
      exact visible (skipSpace_eq_nil_iff.mpr spaces)

theorem read_map {text : List Char} {entries : List Entry} (isMap : IsMap text entries) :
    readWhole read text = .ok (entries.foldl store default) := by
  obtain ⟨⟨before, inner, behind, rfl, spaces, spaces', items⟩, distinct⟩ := isMap
  obtain ⟨space, blanks, members⟩ := readMembers_append default items distinct
    (fun entry _ => entry.field.mem_all) behind
  refine readWhole_eq_ok_iff.mpr ⟨behind, spaces', ?_⟩
  rw [read, skipSpace_append spaces, skipSpace_cons (by decide)]
  exact bind_eq_ok_iff.mpr
    ⟨_, members, bind_eq_ok_iff.mpr ⟨behind, endMap_append blanks behind, rfl⟩⟩

theorem read_list {text : List Char} {entries : List Entry} (isList : IsList text entries) :
    readWhole read text = .ok (entries.foldl store default) := by
  obtain ⟨⟨before, inner, behind, rfl, spaces, spaces', items⟩, inOrder⟩ := isList
  obtain ⟨space, blanks, elements⟩ := readElements_append default items inOrder behind
  refine readWhole_eq_ok_iff.mpr ⟨behind, spaces', ?_⟩
  rw [read, skipSpace_append spaces, skipSpace_cons (by decide)]
  exact bind_eq_ok_iff.mpr
    ⟨_, elements, bind_eq_ok_iff.mpr ⟨behind, endList_append blanks behind, rfl⟩⟩

/-- Whatever is read as a context is a map or a list of the format. -/
theorem format_of_read {text : List Char} {context : Context}
    (accepted : readWhole read text = .ok context) :
    ∃ entries, (IsMap text entries ∨ IsList text entries) ∧
      context = entries.foldl store default := by
  obtain ⟨behind, spaces', accepted⟩ := readWhole_eq_ok_iff.mp accepted
  obtain ⟨before, whole, spaces⟩ := exists_spaces text
  unfold read at accepted
  split at accepted
  · rename_i unread skipped
    obtain ⟨⟨result, left⟩, members, finished⟩ := bind_eq_ok_iff.mp accepted
    obtain ⟨rest, ended, same⟩ := bind_eq_ok_iff.mp finished
    obtain ⟨rfl, rfl⟩ := Prod.mk.inj (Except.ok.inj same)
    obtain ⟨inner, space, rest', entries, rfl, rfl, blanks, items, distinct, _, rfl⟩ :=
      items_of_readMembers (by decide) members
    obtain rfl : rest' = rest := by simpa [endMap_append blanks] using ended
    exact ⟨entries, .inl ⟨⟨before, inner, rest', by rw [whole, skipped], spaces, spaces', items⟩,
      distinct⟩, rfl⟩
  · rename_i unread skipped
    obtain ⟨⟨result, left⟩, elements, finished⟩ := bind_eq_ok_iff.mp accepted
    obtain ⟨rest, ended, same⟩ := bind_eq_ok_iff.mp finished
    obtain ⟨rfl, rfl⟩ := Prod.mk.inj (Except.ok.inj same)
    obtain ⟨inner, entries, rfl, items, inOrder, rfl⟩ := items_of_readElements elements ended
    exact ⟨entries, .inr ⟨⟨before, inner, rest, by rw [whole, skipped], spaces, spaces', items⟩,
      inOrder⟩, rfl⟩
  · simp at accepted

end Context
end FileConfinement
