import FileConfinement.Context.Layout
import FileConfinement.Proofs.DocumentFormat
import FileConfinement.Proofs.DirectiveLine
import Mathlib.Data.List.Forall2

/-!
# Reading written contexts

What is read from a written context: everything but the rules as it was, and of each rule
what its line is read as.  The space that a layout writes makes no difference.
-/

namespace FileConfinement
namespace Document

/-- A layout with nothing but space between the words. -/
structure Layout.IsBlank (layout : Layout) : Prop where
  member : IsSpaces layout.member
  value : IsSpaces layout.value
  element : IsSpaces layout.element
  listEnd : IsSpaces layout.listEnd
  mapEnd : IsSpaces layout.mapEnd

theorem isBlank_compact : Layout.compact.IsBlank := by
  constructor <;> simp [Layout.compact, IsSpaces]

theorem isBlank_indented : Layout.indented.IsBlank := by
  constructor <;> simp [Layout.indented, IsSpaces, isSpace]

theorem isBlank_of_mem {layout : Layout} (member : layout ∈ [Layout.compact, Layout.indented]) :
    layout.IsBlank := by
  rcases List.mem_pair.mp member with rfl | rfl
  · exact isBlank_compact
  · exact isBlank_indented

theorem separate_cons (item : List Char) (items : List (List Char)) :
    separate (item :: items) = item ++ items.flatMap (',' :: ·) := by
  induction items generalizing item with
  | nil => simp [separate]
  | cons next items ih =>
      rw [separate, List.intercalate_cons_cons, ← separate, ih]
      simp

/-- The directives that the lines of other directives are read as. -/
def Rereads : DirectiveQueue → DirectiveQueue → Prop :=
  List.Forall₂ fun directive reread => Directive.ofLine directive.display.toList = .ok reread

theorem readDirective_write (directive : Directive) (rest : List Char) :
    readDirective (writeDirective directive ++ rest) =
      match Directive.ofLine directive.display.toList with
      | .ok reread => .ok (reread, rest)
      | .error fault => .error (.before (.directive fault) (leaveList rest)) := by
  have read := readText_append .text (spellsText_writeText directive.display.toList) rest
  cases accepted : Directive.ofLine directive.display.toList <;>
    simp [readDirective, writeDirective, read, accepted]

theorem startsValue_writeDirective (directive : Directive) :
    StartsValue (writeDirective directive) :=
  (reads_text .text).starts (spellsText_writeText _)

/-- A written element is read if its line is a directive. -/
theorem readDirectives_write {first : Bool} {separator : List Char}
    (separates : Separates first separator) {directive : Directive} {result : DirectiveQueue}
    {more behind : List Char} :
    readDirectives first (separator ++ (writeDirective directive ++ more)) =
        .ok (result, behind) ↔
      ∃ reread others, Directive.ofLine directive.display.toList = .ok reread ∧
        readDirectives false more = .ok (others, behind) ∧ result = reread :: others := by
  rw [readDirectives_element
    (nextElement_append separates (startsValue_writeDirective directive) more),
    readDirective_write]
  cases Directive.ofLine directive.display.toList with
  | error fault => simp
  | ok reread =>
      simp only [map_eq_ok_iff, Prod.exists, Prod.mk.injEq, Except.ok.injEq]
      constructor
      · rintro ⟨others, left, read, rfl, rfl⟩
        exact ⟨reread, others, rfl, read, rfl⟩
      · rintro ⟨_, others, rfl, read, rfl⟩
        exact ⟨others, behind, read, rfl, rfl⟩

/-- The elements of a written list behind the first one. -/
def writtenLater (lead : List Char) (queue : DirectiveQueue) : List Char :=
  queue.flatMap fun directive => ',' :: (lead ++ writeDirective directive)

theorem readDirectives_writtenLater {lead tail : List Char} (leads : IsSpaces lead)
    (tails : IsSpaces tail) (queue : DirectiveQueue) {result : DirectiveQueue}
    {rest behind : List Char} :
    readDirectives false (writtenLater lead queue ++ (tail ++ ']' :: rest)) =
        .ok (result, behind) ↔
      Rereads queue result ∧ behind = tail ++ ']' :: rest := by
  induction queue generalizing result with
  | nil =>
      have ended : readDirectives false (tail ++ ']' :: rest) = .ok ([], tail ++ ']' :: rest) :=
        readDirectives_end (nextElement_end false tails rest)
      simp only [writtenLater, List.flatMap_nil, List.nil_append, ended, Except.ok.injEq,
        Prod.mk.injEq, Rereads, List.forall₂_nil_left_iff]
      exact and_congr eq_comm eq_comm
  | cons directive queue ih =>
      have separates : Separates false (',' :: lead) := ⟨[], lead, rfl, IsSpaces.nil, leads⟩
      have whole : writtenLater lead (directive :: queue) ++ (tail ++ ']' :: rest) =
          (',' :: lead) ++ (writeDirective directive ++
            (writtenLater lead queue ++ (tail ++ ']' :: rest))) := by
        simp [writtenLater]
      rw [whole, readDirectives_write separates]
      simp only [ih, Rereads, List.forall₂_cons_left_iff]
      constructor
      · rintro ⟨reread, others, accepted, ⟨rereads, same⟩, rfl⟩
        exact ⟨⟨reread, others, accepted, rereads, rfl⟩, same⟩
      · rintro ⟨⟨reread, others, accepted, rereads, rfl⟩, same⟩
        exact ⟨reread, others, accepted, ⟨rereads, same⟩, rfl⟩

theorem readQueue_bracket {space : List Char} (spaces : IsSpaces space) (unread : List Char)
    {result : DirectiveQueue} {behind : List Char} :
    readQueue (space ++ '[' :: unread) = .ok (result, behind) ↔
      ∃ left, readDirectives true unread = .ok (result, left) ∧ endList left = .ok behind := by
  rw [readQueue, skipSpace_append spaces, skipSpace_cons (by decide)]
  constructor
  · intro accepted
    obtain ⟨⟨queue, left⟩, read, finished⟩ := bind_eq_ok_iff.mp accepted
    obtain ⟨rest, ended, same⟩ := bind_eq_ok_iff.mp finished
    obtain ⟨rfl, rfl⟩ := Prod.mk.inj (Except.ok.inj same)
    exact ⟨left, read, ended⟩
  · rintro ⟨left, read, ended⟩
    exact bind_eq_ok_iff.mpr ⟨_, read, bind_eq_ok_iff.mpr ⟨behind, ended, rfl⟩⟩

/-- A written list of rules is read if every line is a directive. -/
theorem readQueue_writeQueue {layout : Layout} (blank : layout.IsBlank) {space : List Char}
    (spaces : IsSpaces space) (queue : DirectiveQueue) {result : DirectiveQueue}
    {rest behind : List Char} :
    readQueue (space ++ (writeQueue layout queue ++ rest)) = .ok (result, behind) ↔
      Rereads queue result ∧ behind = rest := by
  cases queue with
  | nil =>
      have ended : readDirectives true (']' :: rest) = .ok ([], ']' :: rest) :=
        readDirectives_end (nextElement_end true IsSpaces.nil rest)
      have closed : endList (']' :: rest) = .ok rest := endList_append IsSpaces.nil rest
      have whole : writeQueue layout [] ++ rest = '[' :: (']' :: rest) := rfl
      simp only [whole, readQueue_bracket spaces, ended, Except.ok.injEq, Prod.mk.injEq,
        Rereads, List.forall₂_nil_left_iff]
      constructor
      · rintro ⟨left, ⟨rfl, rfl⟩, finished⟩
        exact ⟨rfl, by simpa [closed, eq_comm] using finished⟩
      · rintro ⟨rfl, rfl⟩
        exact ⟨_, ⟨rfl, rfl⟩, closed⟩
  | cons directive queue =>
      have whole : writeQueue layout (directive :: queue) ++ rest =
          '[' :: (layout.element ++ (writeDirective directive ++
            (writtenLater layout.element queue ++ (layout.listEnd ++ ']' :: rest)))) := by
        simp [writeQueue, writeList, writtenLater, separate_cons, List.flatMap_map]
      have separates : Separates true layout.element := blank.element
      have closed : endList (layout.listEnd ++ ']' :: rest) = .ok rest :=
        endList_append blank.listEnd rest
      simp only [whole, readQueue_bracket spaces, readDirectives_write separates,
        readDirectives_writtenLater blank.element blank.listEnd, Rereads,
        List.forall₂_cons_left_iff]
      constructor
      · rintro ⟨left, ⟨reread, others, accepted, ⟨rereads, rfl⟩, rfl⟩, finished⟩
        exact ⟨⟨reread, others, accepted, rereads, rfl⟩, by simpa [closed, eq_comm] using finished⟩
      · rintro ⟨⟨reread, others, accepted, rereads, rfl⟩, rfl⟩
        exact ⟨_, ⟨reread, others, accepted, ⟨rereads, rfl⟩, rfl⟩, closed⟩

/-! ### Members -/

/-- A written member without the space in front of it. -/
def writtenMember (layout : Layout) (field : Field) (literal : List Char) : List Char :=
  writeText field.key.toList ++ ':' :: (layout.value ++ literal)

end Document

namespace Context

open Document

theorem spellsBoolean_writeBoolean (value : Bool) : SpellsBoolean (writeBoolean value) value := by
  cases value <;> rfl

theorem spellsPath_of_writePath? {path : Path} {literal : List Char}
    (written : writePath? path = some literal) : SpellsPath literal path := by
  obtain ⟨text, isText, rfl⟩ := Option.map_eq_some_iff.mp written
  exact ⟨text, spellsText_writeText text, Path.text?_eq_some_iff.mp isText⟩

theorem spellsHome_of_writeHome? {home : Option Path} {literal : List Char}
    (written : writeHome? home = some literal) : SpellsOptional SpellsPath literal home := by
  cases home with
  | none => exact (Option.some.inj written).symm
  | some home => exact spellsPath_of_writePath? written

theorem spellsUid_writeOptional (uid : Option UInt32) :
    SpellsOptional SpellsUserId
      (writeOptional (uid.map fun uid => Nat.toDigits 10 uid.toNat)) uid := by
  cases uid <;> rfl

/-- A written member is stored when another one follows. -/
theorem readMembers_writtenMember {layout : Layout} (blank : layout.IsBlank)
    {missing : List Field} {first : Bool} (context : Context) {separator literal space : List Char}
    (field : Field) {value : field.Value} (separates : Separates first separator)
    (spelled : SpellsValue field literal value) (isMissing : field ∈ missing) (rest : List Char) :
    readMembers missing first context
        (separator ++ (writtenMember layout field literal ++ (',' :: space ++ rest))) =
      readMembers (missing.erase field) false (context.set field value) (',' :: space ++ rest) := by
  have member : SpellsMember (writtenMember layout field literal) ⟨field, value⟩ :=
    ⟨_, [], layout.value, literal, by simp [writtenMember], spellsText_writeText _, IsSpaces.nil,
      blank.value, spelled⟩
  have ends : EndsValue (',' :: space ++ rest) := by
    rintro character same
    exact .inr (.inl (Option.some.inj same).symm)
  exact readMembers_member context separates member isMissing ends

/-- The members of a written context in front of its rules are stored. -/
theorem readMembers_write {layout : Layout} (blank : layout.IsBlank) {context : Context}
    {home runtimeDirectory : List Char} (isHome : writeHome? context.home = some home)
    (isRuntimeDirectory : writePath? context.runtimeDirectory = some runtimeDirectory)
    (rules : List Char) :
    readMembers Field.all true default (layout.member ++
        (writtenMember layout .baseline (writeBoolean context.baseline) ++
        (',' :: layout.member ++ (writtenMember layout .home home ++
        (',' :: layout.member ++ (writtenMember layout .uid
          (writeOptional (context.uid.map fun uid => Nat.toDigits 10 uid.toNat)) ++
        (',' :: layout.member ++ (writtenMember layout .runtimeDirectory runtimeDirectory ++
        (',' :: layout.member ++ (writeText Field.rules.key.toList ++ ':' :: rules)))))))))) =
      match readField .rules { context with rules := [] } rules with
      | .error fault => .error fault
      | .ok (context, rest) => readMembers [] false context rest := by
  have first : Separates true layout.member := blank.member
  have later : Separates false (',' :: layout.member) :=
    ⟨[], layout.member, rfl, IsSpaces.nil, blank.member⟩
  have baseline := spellsBoolean_writeBoolean context.baseline
  have home := spellsHome_of_writeHome? isHome
  have uid := spellsUid_writeOptional context.uid
  have runtimeDirectory := spellsPath_of_writePath? isRuntimeDirectory
  rw [readMembers_writtenMember blank default .baseline first baseline (by decide),
    readMembers_writtenMember blank _ .home later home (by decide),
    readMembers_writtenMember blank _ .uid later uid (by decide),
    readMembers_writtenMember blank _ .runtimeDirectory later runtimeDirectory (by decide)]
  exact readMembers_key _ later (spellsText_writeText _) IsSpaces.nil (by decide)

theorem readWhole_brace (unread : List Char) {result : Context} :
    readWhole read ('{' :: unread) = .ok result ↔
      ∃ left rest, readMembers Field.all true default unread = .ok (result, left) ∧
        endMap left = .ok rest ∧ IsSpaces rest := by
  rw [readWhole_eq_ok_iff, read, skipSpace_cons (by decide)]
  constructor
  · rintro ⟨space, spaces, accepted⟩
    obtain ⟨⟨context, left⟩, members, finished⟩ := bind_eq_ok_iff.mp accepted
    obtain ⟨rest, ended, same⟩ := bind_eq_ok_iff.mp finished
    obtain ⟨rfl, rfl⟩ := Prod.mk.inj (Except.ok.inj same)
    exact ⟨left, rest, members, ended, spaces⟩
  · rintro ⟨left, rest, members, ended, spaces⟩
    exact ⟨rest, spaces, bind_eq_ok_iff.mpr ⟨_, members, bind_eq_ok_iff.mpr ⟨rest, ended, rfl⟩⟩⟩

/-- Everything but the rules is read from a written context as it was, and the rules are read
from their lines. -/
theorem readWhole_write {layout : Layout} (blank : layout.IsBlank) {context result : Context}
    {text : List Char} (written : context.write? layout = some text) :
    readWhole read text = .ok result ↔
      ∃ rules, Rereads context.rules rules ∧ result = { context with rules := rules } := by
  obtain ⟨home, isHome, written⟩ := Option.bind_eq_some_iff.mp written
  obtain ⟨runtimeDirectory, isRuntimeDirectory, written⟩ := Option.bind_eq_some_iff.mp written
  have whole : text = '{' :: (layout.member ++
      (writtenMember layout .baseline (writeBoolean context.baseline) ++
      (',' :: layout.member ++ (writtenMember layout .home home ++
      (',' :: layout.member ++ (writtenMember layout .uid
        (writeOptional (context.uid.map fun uid => Nat.toDigits 10 uid.toNat)) ++
      (',' :: layout.member ++ (writtenMember layout .runtimeDirectory runtimeDirectory ++
      (',' :: layout.member ++ (writeText Field.rules.key.toList ++ ':' :: (layout.value ++
        (writeQueue layout context.rules ++ (layout.mapEnd ++ ['}']))))))))))))) := by
    rw [← Option.some.inj written]
    simp [writeMap, writeMember, writtenMember, separate_cons]
  have queue (rules : DirectiveQueue) (behind : List Char) :
      readQueue (layout.value ++
          (writeQueue layout context.rules ++ (layout.mapEnd ++ ['}']))) = .ok (rules, behind) ↔
        Rereads context.rules rules ∧ behind = layout.mapEnd ++ ['}'] :=
    readQueue_writeQueue blank blank.value context.rules
  have ended : endMap (layout.mapEnd ++ ['}']) = .ok [] := endMap_append blank.mapEnd []
  have closed : ∀ context : Context, readMembers [] false context (layout.mapEnd ++ ['}']) =
      .ok (context, layout.mapEnd ++ ['}']) := fun context =>
    readMembers_end (nextKey_end false blank.mapEnd [])
  -- All members but the rules are read as they were, so the rules decide.
  rw [whole, readWhole_brace, readMembers_write blank isHome isRuntimeDirectory, readField]
  cases read : readQueue (layout.value ++
      (writeQueue layout context.rules ++ (layout.mapEnd ++ ['}']))) with
  | error fault =>
      simp only [read] at queue
      have refused : ∀ rules, ¬ Rereads context.rules rules := fun rules rereads =>
        nomatch (queue rules _).mpr ⟨rereads, rfl⟩
      simp [Except.map, refused]
  | ok found =>
      obtain ⟨rules, behind⟩ := found
      simp only [read, Except.ok.injEq, Prod.mk.injEq] at queue
      obtain ⟨rereads, rfl⟩ := (queue rules behind).mp ⟨rfl, rfl⟩
      simp only [Except.map, closed, Except.ok.injEq, Prod.mk.injEq]
      constructor
      · rintro ⟨left, rest, ⟨rfl, rfl⟩, _⟩
        exact ⟨rules, rereads, rfl⟩
      · rintro ⟨rules', rereads', rfl⟩
        obtain ⟨rfl, _⟩ := (queue rules' _).mpr ⟨rereads', rfl⟩
        exact ⟨_, [], ⟨rfl, rfl⟩, ended, IsSpaces.nil⟩

end Context
end FileConfinement
