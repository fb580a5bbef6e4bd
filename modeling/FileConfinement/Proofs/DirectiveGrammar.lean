import FileConfinement.Failure
import FileConfinement.Proofs.DirectiveLine

/-!
# The grammar of directive lines

A directive is spelled as blanks, the keyword of its class, one or more blanks, the text of its
path, and blanks.  A line that is spelled in this way is spelled in one way only and is read as
its directive.  Every other line is refused, for the lack of a second word or else for its first
word, and never because nothing but blanks stands behind a keyword.
-/

namespace FileConfinement
namespace Text

variable {inside : Char → Bool} {front rest : List Char}

theorem takeWhile_of_boundary (within : ∀ character ∈ front, inside character = true)
    (boundary : ∀ character ∈ rest.head?, inside character = false) :
    (front ++ rest).takeWhile inside = front := by
  rw [List.takeWhile_append_of_pos within]
  cases rest with
  | nil => simp
  | cons first rest => simp [boundary first rfl]

/-- Where a run of characters of one kind ends, a text is cut in one way only. -/
theorem append_inj_of_boundary {front' rest' : List Char}
    (within : ∀ character ∈ front, inside character = true)
    (boundary : ∀ character ∈ rest.head?, inside character = false)
    (within' : ∀ character ∈ front', inside character = true)
    (boundary' : ∀ character ∈ rest'.head?, inside character = false)
    (same : front ++ rest = front' ++ rest') : front = front' ∧ rest = rest' := by
  have fronts : front = front' := by
    rw [← takeWhile_of_boundary within boundary, same, takeWhile_of_boundary within' boundary']
  subst fronts
  exact ⟨rfl, List.append_cancel_left same⟩

end Text

theorem AccessClass.ofKeyword?_eq_some_iff {word : String} {accessClass : AccessClass} :
    ofKeyword? word = some accessClass ↔ accessClass.keyword = word := by
  constructor
  · intro found
    simpa using List.find?_some found
  · rintro rfl
    exact ofKeyword?_keyword accessClass

namespace Directive

/-- A way to spell a directive as a line. -/
@[ext]
structure Spelling where
  lead : List Char
  accessClass : AccessClass
  gap : List Char
  text : List Char
  trail : List Char
  lead_blank : ∀ character ∈ lead, Text.isBlank character = true
  gap_blank : ∀ character ∈ gap, Text.isBlank character = true
  gap_ne_nil : gap ≠ []
  text_ne_nil : text ≠ []
  text_trimmed : Text.IsTrimmed text
  trail_blank : ∀ character ∈ trail, Text.isBlank character = true

namespace Spelling

def line (spelling : Spelling) : List Char :=
  spelling.lead ++ (spelling.accessClass.keyword.toList ++
    (spelling.gap ++ (spelling.text ++ spelling.trail)))

def directive (spelling : Spelling) : Directive :=
  ⟨spelling.accessClass, .ofText spelling.text⟩

theorem trim_line (spelling : Spelling) :
    Text.trim spelling.line =
      spelling.accessClass.keyword.toList ++ (spelling.gap ++ spelling.text) := by
  have trimmed := (isTrimmed_keyword spelling.accessClass).append
    (keyword_isWord spelling.accessClass).1 spelling.text_trimmed spelling.text_ne_nil spelling.gap
  have cut := Text.trim_blanks_append spelling.lead_blank trimmed spelling.trail_blank
  rw [← cut, line]
  simp only [List.append_assoc]

theorem ofLine_line (spelling : Spelling) : ofLine spelling.line = .ok spelling.directive := by
  have whole := spelling.trim_line
  cases blanks : spelling.gap with
  | nil => exact absurd blanks spelling.gap_ne_nil
  | cons blank gap =>
      have gap_blank := blanks ▸ spelling.gap_blank
      obtain ⟨separates, others⟩ := List.forall_mem_cons.mp gap_blank
      have cut : Text.trim spelling.line =
          spelling.accessClass.keyword.toList ++ blank :: (gap ++ spelling.text) := by
        rw [whole, blanks, List.cons_append]
      have path : Text.trim (gap ++ spelling.text) = spelling.text := by
        simpa using @Text.trim_blanks_append gap spelling.text [] others spelling.text_trimmed
          (by simp)
      rw [ofLine_of_cut cut (keyword_isWord spelling.accessClass).2 separates, path,
        String.ofList_toList, AccessClass.ofKeyword?_keyword]
      rfl

/-- A line whose first word is a keyword spells a directive. -/
theorem exists_of_cut {line word rest : List Char} {blank : Char} {accessClass : AccessClass}
    (cut : Text.trim line = word ++ blank :: rest) (separates : Text.isBlank blank = true)
    (named : AccessClass.ofKeyword? (String.ofList word) = some accessClass) :
    ∃ spelling : Spelling, spelling.line = line ∧
      spelling.directive = ⟨accessClass, .ofText (Text.trim rest)⟩ := by
  obtain ⟨lead, trail, whole, leads, trails⟩ := Text.exists_blanks_trim line
  obtain ⟨gap, after, within, gaps, afters⟩ := Text.exists_blanks_trim rest
  have keyword : accessClass.keyword.toList = word := by
    rw [AccessClass.ofKeyword?_eq_some_iff.mp named, String.toList_ofList]
  let spelling : Spelling := {
    lead := lead
    accessClass := accessClass
    gap := blank :: gap
    text := Text.trim rest
    trail := after ++ trail
    lead_blank := leads
    gap_blank := List.forall_mem_cons.mpr ⟨separates, gaps⟩
    gap_ne_nil := List.cons_ne_nil blank gap
    text_ne_nil := Text.trim_ne_nil_of_isTrimmed (cut ▸ Text.isTrimmed_trim line) separates
    text_trimmed := Text.isTrimmed_trim rest
    trail_blank := List.forall_mem_append.mpr ⟨afters, trails⟩ }
  refine ⟨spelling, ?_, rfl⟩
  calc
    spelling.line = lead ++ (word ++ blank :: (gap ++ (Text.trim rest ++ after)) ++ trail) := by
      simp [spelling, Spelling.line, keyword]
    _ = lead ++ (Text.trim line ++ trail) := by rw [← within, cut]
    _ = line := whole.symm

/-- A text that begins with a word does not begin with a blank. -/
theorem head_keyword_append (accessClass : AccessClass) (text : List Char) :
    ∀ character ∈ (accessClass.keyword.toList ++ text).head?, Text.isBlank character = false := by
  intro character isFirst
  rw [List.head?_append_of_ne_nil _ (keyword_isWord accessClass).1] at isFirst
  exact (isTrimmed_keyword accessClass).1 character isFirst

theorem head_gap_append (spelling : Spelling) (text : List Char) :
    ∀ character ∈ (spelling.gap ++ text).head?, Text.isBlank character = true := by
  intro character isFirst
  rw [List.head?_append_of_ne_nil _ spelling.gap_ne_nil] at isFirst
  exact spelling.gap_blank character (List.mem_of_mem_head? isFirst)

theorem head_text_append (spelling : Spelling) (text : List Char) :
    ∀ character ∈ (spelling.text ++ text).head?, Text.isBlank character = false := by
  intro character isFirst
  rw [List.head?_append_of_ne_nil _ spelling.text_ne_nil] at isFirst
  exact spelling.text_trimmed.1 character isFirst

/-- A line is spelled in one way: each part ends where characters of the other kind begin. -/
theorem line_injective {first second : Spelling} (same : first.line = second.line) :
    first = second := by
  obtain ⟨leads, behind⟩ := Text.append_inj_of_boundary first.lead_blank
    (head_keyword_append _ _) second.lead_blank (head_keyword_append _ _) same
  have words (spelling : Spelling) :
      ∀ character ∈ spelling.accessClass.keyword.toList, (!Text.isBlank character) = true := by
    intro character member
    simp [(keyword_isWord spelling.accessClass).2 character member]
  have stops (spelling : Spelling) (text : List Char) :
      ∀ character ∈ (spelling.gap ++ text).head?, (!Text.isBlank character) = false := by
    intro character isFirst
    simp [spelling.head_gap_append text character isFirst]
  obtain ⟨keywords, behind⟩ := Text.append_inj_of_boundary (words first) (stops first _)
    (words second) (stops second _) behind
  obtain ⟨gaps, behind⟩ := Text.append_inj_of_boundary first.gap_blank (first.head_text_append _)
    second.gap_blank (second.head_text_append _) behind
  have texts : first.text = second.text := by
    have trims (spelling : Spelling) :
        Text.trim (spelling.text ++ spelling.trail) = spelling.text :=
      @Text.trim_blanks_append [] _ _ (by simp) spelling.text_trimmed spelling.trail_blank
    rw [← trims first, behind, trims]
  rw [texts] at behind
  exact Spelling.ext leads (AccessClass.keyword_injective (String.toList_inj.mp keywords)) gaps
    texts (List.append_cancel_left behind)

end Spelling

theorem ofLine_eq_ok_iff {line : List Char} {directive : Directive} :
    ofLine line = .ok directive ↔
      ∃ spelling : Spelling, spelling.line = line ∧ spelling.directive = directive := by
  constructor
  · intro accepted
    rcases isWord_or_cut line with isWord | ⟨word, blank, rest, cut, isWord, separates⟩
    · rw [ofLine_of_isWord isWord] at accepted
      exact absurd accepted (by simp)
    · rw [ofLine_of_cut cut isWord separates] at accepted
      split at accepted
      · exact absurd accepted (by simp)
      · rename_i accessClass named
        rw [← Except.ok.inj accepted]
        exact Spelling.exists_of_cut cut separates named
  · rintro ⟨spelling, rfl, rfl⟩
    exact spelling.ofLine_line

theorem ofLine_eq_error_iff {line : List Char} {fault : DirectiveFault} :
    ofLine line = .error fault ↔
      ((∀ character ∈ Text.trim line, Text.isBlank character = false) ∧
          fault = .missingPath (Text.trim line)) ∨
        ∃ word blank rest, Text.trim line = word ++ blank :: rest ∧
          (∀ character ∈ word, Text.isBlank character = false) ∧ Text.isBlank blank = true ∧
          (¬ ∃ spelling : Spelling, spelling.line = line) ∧ fault = .unknownKeyword word := by
  have spelled : (∃ spelling : Spelling, spelling.line = line) →
      ofLine line ≠ .error fault := by
    rintro ⟨spelling, rfl⟩
    simp [spelling.ofLine_line]
  constructor
  · intro refused
    rcases isWord_or_cut line with isWord | ⟨word, blank, rest, cut, isWord, separates⟩
    · rw [ofLine_of_isWord isWord] at refused
      exact .inl ⟨isWord, (Except.error.inj refused).symm⟩
    · refine .inr ⟨word, blank, rest, cut, isWord, separates, fun made => spelled made refused, ?_⟩
      rw [ofLine_of_cut cut isWord separates] at refused
      split at refused
      · exact (Except.error.inj refused).symm
      · exact absurd refused (by simp)
  · rintro (⟨isWord, rfl⟩ | ⟨word, blank, rest, cut, isWord, separates, unspelled, rfl⟩)
    · exact ofLine_of_isWord isWord
    · rw [ofLine_of_cut cut isWord separates]
      split
      · rfl
      · rename_i accessClass named
        obtain ⟨spelling, made, _⟩ := Spelling.exists_of_cut cut separates named
        exact absurd ⟨spelling, made⟩ unspelled

end Directive

/-- A line is read as a directive exactly if it spells that directive, and it spells at most one,
in one way.  A line that spells none is refused: it lacks a path if no blank is left in it once it
is trimmed, and otherwise its first word is unknown.  The text that stands behind the first blank
of a trimmed line never turns out to be empty. -/
theorem line_is_read_exactly (line : String) :
    let trimmed := Text.trim line.toList
    (∀ directive, Directive.ofString line = .ok directive ↔
      ∃ spelling : Directive.Spelling,
        spelling.line = line.toList ∧ spelling.directive = directive) ∧
    (∀ first second : Directive.Spelling,
      first.line = line.toList → second.line = line.toList → first = second) ∧
    (∀ fault, Directive.ofString line = .error fault ↔
      ((∀ character ∈ trimmed, Text.isBlank character = false) ∧ fault = .missingPath trimmed) ∨
        ∃ word blank rest, trimmed = word ++ blank :: rest ∧
          (∀ character ∈ word, Text.isBlank character = false) ∧ Text.isBlank blank = true ∧
          (¬ ∃ spelling : Directive.Spelling, spelling.line = line.toList) ∧
          fault = .unknownKeyword word) ∧
    (∀ fault, Directive.ofString line = .error fault →
      (Failure.configuration (.directive fault)).message = "Invalid configuration: " ++
        if trimmed.any Text.isBlank then
          "unknown Landlock directive '" ++
            String.ofList (trimmed.takeWhile (!Text.isBlank ·)) ++ "'"
        else
          "missing path in '" ++ String.ofList trimmed ++ "'") ∧
    ∀ word blank rest, trimmed = word ++ blank :: rest →
      (∀ character ∈ word, Text.isBlank character = false) → Text.isBlank blank = true →
        Text.trim rest ≠ [] := by
  intro trimmed
  refine ⟨fun directive => Directive.ofLine_eq_ok_iff, ?_,
    fun fault => Directive.ofLine_eq_error_iff, ?_, ?_⟩
  · intro first second spells spells'
    exact Directive.Spelling.line_injective (spells.trans spells'.symm)
  · intro fault refused
    rcases Directive.ofLine_eq_error_iff.mp refused with
      ⟨isWord, rfl⟩ | ⟨word, blank, rest, cut, isWord, separates, _, rfl⟩
    · have solid : trimmed.any Text.isBlank = false := by simpa [trimmed] using isWord
      rw [solid]
      rfl
    · have first : trimmed.takeWhile (!Text.isBlank ·) = word := by
        rw [show trimmed = word ++ blank :: rest from cut]
        apply Text.takeWhile_of_boundary
        · intro character member
          simp [isWord character member]
        · simp [separates]
      have another : trimmed.any Text.isBlank = true := by
        rw [show trimmed = word ++ blank :: rest from cut]
        simp [separates]
      rw [another, if_pos rfl, first]
      rfl
  · intro word blank rest cut _ separates
    have isTrimmed : Text.IsTrimmed trimmed := Text.isTrimmed_trim line.toList
    exact Text.trim_ne_nil_of_isTrimmed (cut ▸ isTrimmed) separates

example :
    Directive.ofString "\u2003landlock.read\u00A0 landlock.write /a b\t" =
      .ok ⟨.read, .ofString "landlock.write /a b"⟩ := by
  decide

end FileConfinement
