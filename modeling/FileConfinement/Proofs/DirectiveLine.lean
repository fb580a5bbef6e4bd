import FileConfinement.Proofs.TextBytes
import FileConfinement.Directive
import Mathlib.Data.List.DropRight

/-!
# Lines of directives

A line that is accepted names a path whose text is not empty and has no blanks at its ends.
Exactly the directives with such a path are written as a line that is read as the directive.
-/

namespace FileConfinement

namespace Text

/-- Behind the space there is no blank before the control characters beyond ASCII. -/
theorem isBlank_of_toNat {character : Char} (behind : 0x20 < character.toNat)
    (before : character.toNat < 0x85) : isBlank character = false := by
  simp only [isBlank, blankRanges, List.any_cons, List.any_nil, Bool.or_false,
    Bool.or_eq_false_iff, Bool.and_eq_false_iff, decide_eq_false_iff_not, Nat.not_le]
  omega

/-- A text without blanks at either end. -/
def IsTrimmed (text : List Char) : Prop :=
  (∀ first ∈ text.head?, isBlank first = false) ∧ ∀ last ∈ text.getLast?, isBlank last = false

theorem isTrimmed_iff_all (text : List Char) :
    (text.head?.all (!isBlank ·) && text.getLast?.all (!isBlank ·)) = true ↔ IsTrimmed text := by
  simp [IsTrimmed, Option.all_eq_true]

/-- Only the characters at the two ends are looked at. -/
instance (text : List Char) : Decidable (IsTrimmed text) :=
  decidable_of_iff _ (isTrimmed_iff_all text)

theorem trim_of_isTrimmed {text : List Char} (trimmed : IsTrimmed text) : trim text = text := by
  have start : trimStart text = text := by
    cases text with
    | nil => rfl
    | cons first rest => simp [trimStart, trimmed.1 first rfl]
  rw [trim, start]
  refine List.rdropWhile_eq_self_iff.mpr fun nonempty => ?_
  rw [trimmed.2 _ (List.getLast?_eq_some_getLast nonempty)]
  exact Bool.false_ne_true

theorem isTrimmed_trim (text : List Char) : IsTrimmed (trim text) := by
  refine ⟨fun first isFirst => ?_, fun last isLast => ?_⟩
  · -- What is left of the start of the text begins as the start does.
    obtain ⟨blanks, whole⟩ := List.rdropWhile_prefix isBlank (trimStart text)
    change (List.rdropWhile isBlank (trimStart text)).head? = some first at isFirst
    have starts : (trimStart text).head? = some first := by
      rw [← whole, List.head?_append, isFirst]
      rfl
    have stopped := List.head?_dropWhile_not isBlank text
    rw [trimStart] at starts
    simpa [starts] using stopped
  · change (List.rdropWhile isBlank (trimStart text)).getLast? = some last at isLast
    have nonempty : List.rdropWhile isBlank (trimStart text) ≠ [] := by
      intro empty
      simp [empty] at isLast
    rw [List.getLast?_eq_some_getLast nonempty, Option.some.injEq] at isLast
    have stopped := List.rdropWhile_last_not isBlank (trimStart text) nonempty
    rwa [isLast, Bool.not_eq_true] at stopped

/-- Trimming cuts blanks off, at the two ends only. -/
theorem exists_blanks_trim (text : List Char) :
    ∃ lead trail, text = lead ++ (trim text ++ trail) ∧
      (∀ character ∈ lead, isBlank character = true) ∧
      ∀ character ∈ trail, isBlank character = true := by
  refine ⟨text.takeWhile isBlank, ((trimStart text).reverse.takeWhile isBlank).reverse,
    ?_, ?_, ?_⟩
  · have ends : trimStart text =
        trim text ++ ((trimStart text).reverse.takeWhile isBlank).reverse := by
      rw [trim, trimEnd, ← List.reverse_append, List.takeWhile_append_dropWhile,
        List.reverse_reverse]
    rw [← ends]
    exact (List.takeWhile_append_dropWhile).symm
  · exact fun character member => List.mem_takeWhile_imp member
  · exact fun character member => List.mem_takeWhile_imp (List.mem_reverse.mp member)

/-- What is left of a text between blanks is the text. -/
theorem trim_blanks_append {lead core trail : List Char}
    (leads : ∀ character ∈ lead, isBlank character = true) (trimmed : IsTrimmed core)
    (trails : ∀ character ∈ trail, isBlank character = true) :
    trim (lead ++ (core ++ trail)) = core := by
  have behind : trimStart (lead ++ (core ++ trail)) = trimStart (core ++ trail) :=
    List.dropWhile_append_of_pos leads
  cases core with
  | nil =>
      have blanks : trimStart trail = [] := List.dropWhile_eq_nil_iff.mpr trails
      rw [trim, behind, List.nil_append, blanks]
      rfl
  | cons first rest =>
      have starts (more : List Char) :
          trimStart (first :: rest ++ more) = first :: rest ++ more := by
        simp [trimStart, trimmed.1 first rfl]
      have blanks : trail.reverse.dropWhile isBlank = [] :=
        List.dropWhile_eq_nil_iff.mpr fun character member =>
          trails character (List.mem_reverse.mp member)
      have ends : trimEnd (first :: rest ++ trail) = trimEnd (first :: rest) := by
        rw [trimEnd, List.reverse_append, List.dropWhile_append, blanks]
        rfl
      have kept := trim_of_isTrimmed trimmed
      rw [trim, ← List.append_nil (first :: rest), starts, List.append_nil] at kept
      rw [trim, behind, starts, ends, kept]

theorem IsTrimmed.append {first last : List Char} (trimmed : IsTrimmed first) (named : first ≠ [])
    (trimmed' : IsTrimmed last) (named' : last ≠ []) (middle : List Char) :
    IsTrimmed (first ++ (middle ++ last)) := by
  refine ⟨fun character isFirst => ?_, fun character isLast => ?_⟩
  · rw [List.head?_append_of_ne_nil _ named] at isFirst
    exact trimmed.1 character isFirst
  · rw [← List.append_assoc, List.getLast?_append_of_ne_nil _ named'] at isLast
    exact trimmed'.2 character isLast

theorem trim_eq_nil_iff {text : List Char} :
    trim text = [] ↔ ∀ character ∈ text, isBlank character = true := by
  constructor
  · intro empty
    obtain ⟨lead, trail, whole, leads, trails⟩ := exists_blanks_trim text
    rw [whole, empty]
    exact List.forall_mem_append.mpr ⟨leads, trails⟩
  · intro blanks
    simpa using @trim_blanks_append text [] [] blanks ⟨by simp, by simp⟩ (by simp)

/-- Behind a blank inside a trimmed text stands more than blanks. -/
theorem trim_ne_nil_of_isTrimmed {front rest : List Char} {blank : Char}
    (trimmed : IsTrimmed (front ++ blank :: rest)) (separates : isBlank blank = true) :
    trim rest ≠ [] := by
  intro empty
  have blanks : ∀ character ∈ blank :: rest, isBlank character = true :=
    List.forall_mem_cons.mpr ⟨separates, trim_eq_nil_iff.mp empty⟩
  have last := List.getLast?_eq_some_getLast (List.cons_ne_nil blank rest)
  rw [← List.getLast?_append_of_ne_nil front (List.cons_ne_nil blank rest)] at last
  have solid := trimmed.2 _ last
  rw [blanks _ (List.getLast_mem _)] at solid
  exact Bool.noConfusion solid

end Text

/-- A path that a line can name: text without blanks at its ends, and not empty. -/
def Path.IsLinePath (path : Path) : Prop :=
  ∃ text, path = .ofText text ∧ text ≠ [] ∧ Text.IsTrimmed text

theorem Path.any_text?_iff (path : Path) :
    (path.text?.any fun text => decide (text ≠ [] ∧ Text.IsTrimmed text)) = true ↔
      path.IsLinePath := by
  simp only [Option.any_eq_true, text?_eq_some_iff, decide_eq_true_eq, IsLinePath]

instance (path : Path) : Decidable path.IsLinePath :=
  decidable_of_iff _ path.any_text?_iff

namespace Directive

/-- A line of one word has no path. -/
theorem ofLine_of_isWord {line : List Char}
    (isWord : ∀ character ∈ Text.trim line, Text.isBlank character = false) :
    ofLine line = .error (.missingPath (Text.trim line)) := by
  have whole : (Text.trim line).dropWhile (fun c => !Text.isBlank c) = [] := by
    apply List.dropWhile_eq_nil_iff.mpr
    intro character member
    simp [isWord character member]
  simp only [ofLine, whole]

/-- A line is cut at its first blank.  Its first word decides about the class, and what stands
behind the blank is never without a path. -/
theorem ofLine_of_cut {line word rest : List Char} {blank : Char}
    (cut : Text.trim line = word ++ blank :: rest)
    (isWord : ∀ character ∈ word, Text.isBlank character = false)
    (separates : Text.isBlank blank = true) :
    ofLine line =
      match AccessClass.ofKeyword? (String.ofList word) with
      | none => .error (.unknownKeyword word)
      | some accessClass => .ok ⟨accessClass, .ofText (Text.trim rest)⟩ := by
  have inside : ∀ character ∈ word, (!Text.isBlank character) = true := by
    intro character member
    simp [isWord character member]
  have front : (word ++ blank :: rest).takeWhile (fun c => !Text.isBlank c) = word := by
    rw [List.takeWhile_append_of_pos inside, List.takeWhile_cons_of_neg (by simp [separates]),
      List.append_nil]
  have behind : (word ++ blank :: rest).dropWhile (fun c => !Text.isBlank c) = blank :: rest := by
    rw [List.dropWhile_append_of_pos inside, List.dropWhile_cons_of_neg (by simp [separates])]
  have path : (Text.trim rest).isEmpty = false :=
    List.isEmpty_eq_false_iff.mpr
      (Text.trim_ne_nil_of_isTrimmed (cut ▸ Text.isTrimmed_trim line) separates)
  cases named : AccessClass.ofKeyword? (String.ofList word) with
  | none => simp [ofLine, cut, front, behind, named]
  | some accessClass => simp [ofLine, cut, front, behind, named, path]

/-- What is left of a line is a single word, or it is cut at its first blank. -/
theorem isWord_or_cut (line : List Char) :
    (∀ character ∈ Text.trim line, Text.isBlank character = false) ∨
      ∃ word blank rest, Text.trim line = word ++ blank :: rest ∧
        (∀ character ∈ word, Text.isBlank character = false) ∧ Text.isBlank blank = true := by
  cases first : (Text.trim line).find? Text.isBlank with
  | none =>
      left
      simpa using List.find?_eq_none.mp first
  | some blank =>
      right
      obtain ⟨separates, word, rest, cut, isWord⟩ := List.find?_eq_some_iff_append.mp first
      exact ⟨word, blank, rest, cut, by simpa using isWord, separates⟩

theorem isLinePath_of_ofLine {line : List Char} {directive : Directive}
    (accepted : ofLine line = .ok directive) : directive.path.IsLinePath := by
  rcases isWord_or_cut line with isWord | ⟨word, blank, rest, cut, isWord, separates⟩
  · rw [ofLine_of_isWord isWord] at accepted
    exact absurd accepted (by simp)
  · rw [ofLine_of_cut cut isWord separates] at accepted
    split at accepted
    · exact absurd accepted (by simp)
    · rw [← Except.ok.inj accepted]
      exact ⟨Text.trim rest, rfl,
        Text.trim_ne_nil_of_isTrimmed (cut ▸ Text.isTrimmed_trim line) separates,
        Text.isTrimmed_trim rest⟩

/-- A keyword is a word, so that the path begins behind the first blank of a line. -/
theorem keyword_isWord (accessClass : AccessClass) :
    accessClass.keyword.toList ≠ [] ∧
      ∀ character ∈ accessClass.keyword.toList, Text.isBlank character = false := by
  have word : accessClass.keyword.toList.all (fun character => !Text.isBlank character) = true := by
    cases accessClass <;> decide
  refine ⟨by cases accessClass <;> decide, ?_⟩
  simpa using word

theorem isTrimmed_keyword (accessClass : AccessClass) :
    Text.IsTrimmed accessClass.keyword.toList := by
  cases accessClass <;> decide

/-- A line is cut behind its keyword, whatever blanks the text behind it begins with or
holds. -/
theorem ofLine_keyword_append (accessClass : AccessClass) (text : List Char) :
    ofLine (accessClass.keyword.toList ++ ' ' :: text) =
      if Text.trim text = [] then .error (.missingPath accessClass.keyword.toList)
      else .ok ⟨accessClass, .ofText (Text.trim text)⟩ := by
  obtain ⟨named, isWord⟩ := keyword_isWord accessClass
  obtain ⟨lead, trail, whole, leads, trails⟩ := Text.exists_blanks_trim text
  have trimmed := Text.isTrimmed_trim text
  generalize Text.trim text = core at whole trimmed
  by_cases empty : core = []
  · -- Nothing but blanks stands behind the keyword.
    have blanks : ∀ character ∈ ' ' :: text, Text.isBlank character = true := by
      simp only [whole, empty, List.nil_append, List.forall_mem_cons, List.forall_mem_append]
      exact ⟨Text.isBlank_space, leads, trails⟩
    have line : Text.trim (accessClass.keyword.toList ++ ' ' :: text) =
        accessClass.keyword.toList :=
      @Text.trim_blanks_append [] _ _ (by simp) (isTrimmed_keyword accessClass) blanks
    rw [if_pos empty, ofLine_of_isWord (by rwa [line]), line]
  · have split : accessClass.keyword.toList ++ ' ' :: text =
        accessClass.keyword.toList ++ ' ' :: (lead ++ core) ++ trail := by
      simp [whole]
    have cut : Text.trim (accessClass.keyword.toList ++ ' ' :: text) =
        accessClass.keyword.toList ++ ' ' :: (lead ++ core) := by
      rw [split]
      refine @Text.trim_blanks_append [] _ _ (by simp) ?_ trails
      exact (isTrimmed_keyword accessClass).append named trimmed empty (' ' :: lead)
    have path : Text.trim (lead ++ core) = core := by
      simpa using @Text.trim_blanks_append lead core [] leads trimmed (by simp)
    rw [if_neg empty, ofLine_of_cut cut isWord Text.isBlank_space, path, String.ofList_toList,
      AccessClass.ofKeyword?_keyword]

theorem toList_display (directive : Directive) :
    directive.display.toList =
      directive.accessClass.keyword.toList ++ ' ' :: Utf8.display directive.path.bytes := by
  unfold display
  dsimp only [toString, Path.display]
  simp

/-- What the line of a directive is read as depends on the text that its path is shown as. -/
theorem ofLine_display (directive : Directive) :
    ofLine directive.display.toList =
      if Text.trim (Utf8.display directive.path.bytes) = [] then
        .error (.missingPath directive.accessClass.keyword.toList)
      else
        .ok ⟨directive.accessClass, .ofText (Text.trim (Utf8.display directive.path.bytes))⟩ := by
  rw [toList_display, ofLine_keyword_append]

theorem ofLine_display_of_isLinePath {directive : Directive}
    (named : directive.path.IsLinePath) : ofLine directive.display.toList = .ok directive := by
  obtain ⟨text, isText, nonempty, trimmed⟩ := named
  rw [ofLine_display, isText, Path.ofText, Utf8.display_encode, Text.trim_of_isTrimmed trimmed,
    if_neg nonempty, ← isText]

/-- The directives that survive being written and read are those whose path a line can
name. -/
theorem ofLine_display_iff (directive : Directive) :
    ofLine directive.display.toList = .ok directive ↔ directive.path.IsLinePath := by
  exact ⟨isLinePath_of_ofLine, ofLine_display_of_isLinePath⟩

end Directive
end FileConfinement
