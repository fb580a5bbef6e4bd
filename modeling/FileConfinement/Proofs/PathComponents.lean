import FileConfinement.Proofs.DirectiveLine

/-!
# Components of paths that are text

Paths are compared by their components, which forget slashes and dots.  They forget neither
whether a path is text nor any of its blanks: a path with the components of a text is text
itself, and trimming a text that has blanks at its ends changes its components.
-/

namespace FileConfinement

theorem Utf8.encode_intercalate (separator : List Char) (pieces : List (List Char)) :
    encode (separator.intercalate pieces) =
      (encode separator).intercalate (pieces.map encode) := by
  induction pieces with
  | nil => rfl
  | cons piece pieces ih =>
      cases pieces with
      | nil => simp
      | cons next pieces =>
          simp only [List.map_cons, List.intercalate_cons_cons, encode_append] at ih ⊢
          rw [ih]

/-- An ASCII byte stands in the encoding of no other character. -/
theorem Utf8.eq_of_mem_encodeChar {character : Char} {byte : UInt8} (ascii : byte.toNat < 0x80)
    (member : byte ∈ encodeChar character) : character.toNat = byte.toNat := by
  rcases encodeChar_cases character with ⟨first, spelled, code, _⟩ |
      ⟨first, bytes, spelled, completes, _⟩
  · rw [spelled, List.mem_singleton] at member
    rw [member, code]
  · have high : ∀ other ∈ first :: bytes, 0x80 ≤ other.toNat := by
      rcases completes.cases with ⟨second, rfl, low, _, fits⟩ |
          ⟨second, third, rfl, low, _, fits, more⟩ |
          ⟨second, third, fourth, rfl, low, _, fits, more, last⟩
      all_goals
        simp only [isSecond_iff, isContinuation_iff] at *
        simp only [List.mem_cons, List.not_mem_nil, or_false, forall_eq_or_imp, forall_eq]
        omega
    rw [spelled] at member
    exact absurd (high byte member) (by omega)

namespace Path

/-! ### Segments of text -/

theorem segments_eq_splitOn (bytes : List UInt8) : segments bytes = bytes.splitOn slash := by
  induction bytes with
  | nil => rfl
  | cons byte rest ih =>
      rw [segments, List.splitOn_cons_eq_if_modifyHead, ← ih]
      by_cases same : byte = slash
      · simp [same]
      · have filled : segments rest ≠ [] := ih ▸ List.splitOn_ne_nil slash rest
        obtain ⟨segment, others, split⟩ := List.exists_cons_of_ne_nil filled
        simp [same, split]

theorem segments_ne_nil (bytes : List UInt8) : segments bytes ≠ [] :=
  segments_eq_splitOn bytes ▸ List.splitOn_ne_nil slash bytes

theorem notMem_of_mem_splitOn {character : Char} {text piece : List Char}
    (member : piece ∈ text.splitOn character) : character ∉ piece := by
  induction text generalizing piece with
  | nil => simp_all
  | cons first rest ih =>
      rw [List.splitOn_cons_eq_if_modifyHead] at member
      obtain ⟨next, others, split⟩ :=
        List.exists_cons_of_ne_nil (List.splitOn_ne_nil character rest)
      rw [split] at ih member
      by_cases same : first = character
      · rw [if_pos (by simp [same])] at member
        rcases List.mem_cons.mp member with rfl | later
        · exact List.not_mem_nil
        · exact ih later
      · rw [if_neg (by simp [same]), List.modifyHead_cons] at member
        rcases List.mem_cons.mp member with rfl | later
        · simpa [Ne.symm same] using ih List.mem_cons_self
        · exact ih (List.mem_cons_of_mem next later)

theorem slash_notMem_encode {text : List Char} (unsplit : '/' ∉ text) :
    slash ∉ Utf8.encode text := by
  intro member
  obtain ⟨character, among, spells⟩ := List.mem_flatMap.mp member
  have code : character.toNat = '/'.toNat := Utf8.eq_of_mem_encodeChar (by decide) spells
  rw [Char.toNat_inj.mp code] at among
  exact unsplit among

/-- The segments of a text are the encodings of its pieces between slashes. -/
theorem segments_encode (text : List Char) :
    segments (Utf8.encode text) = (text.splitOn '/').map Utf8.encode := by
  have whole : Utf8.encode text =
      [slash].intercalate ((text.splitOn '/').map Utf8.encode) := by
    conv_lhs => rw [← @List.intercalate_splitOn _ text _ _ '/']
    exact Utf8.encode_intercalate ['/'] (text.splitOn '/')
  rw [segments_eq_splitOn, whole, List.splitOn_intercalate]
  · intro segment member
    obtain ⟨piece, among, rfl⟩ := List.mem_map.mp member
    exact slash_notMem_encode (notMem_of_mem_splitOn among)
  · simp [List.splitOn_ne_nil]

/-- Bytes between slashes that are text make up a text. -/
theorem exists_text_of_segments {bytes : List UInt8}
    (texts : ∀ segment ∈ segments bytes, ∃ text, segment = Utf8.encode text) :
    ∃ text, bytes = Utf8.encode text := by
  choose! piece spelled using texts
  have whole : segments bytes = ((segments bytes).map piece).map Utf8.encode := by
    rw [List.map_map]
    exact (List.map_id _).symm.trans (List.map_congr_left spelled)
  refine ⟨['/'].intercalate ((segments bytes).map piece), ?_⟩
  rw [Utf8.encode_intercalate, ← whole, segments_eq_splitOn]
  exact (List.intercalate_splitOn slash).symm

/-- Only text has the components of a text. -/
theorem exists_text_of_sameComponents {path : Path} {text : List Char}
    (same : SameComponents path (ofText text)) : ∃ own, path = ofText own := by
  have steps : path.components.steps = (ofText text).components.steps :=
    congrArg Components.steps same
  obtain ⟨own, spelled⟩ : ∃ own, path.bytes = Utf8.encode own := by
    refine exists_text_of_segments fun segment member => ?_
    by_cases named : segment ≠ [] ∧ segment ≠ dot
    · -- The segment is a step, so it is a segment of the text as well.
      have step : segment ∈ path.components.steps :=
        List.mem_filter.mpr ⟨member, decide_eq_true named⟩
      rw [steps] at step
      have among : segment ∈ segments (Utf8.encode text) := (List.mem_filter.mp step).1
      rw [segments_encode] at among
      obtain ⟨piece, _, spelled⟩ := List.mem_map.mp among
      exact ⟨piece, spelled.symm⟩
    · rcases Decidable.not_and_iff_not_or_not.mp named with empty | isDot
      · exact ⟨[], not_not.mp empty⟩
      · exact ⟨['.'], not_not.mp isDot⟩
  exact ⟨own, congrArg Path.mk spelled⟩

/-! ### Bytes that components keep -/

/-- Whether a byte is neither a slash nor a dot. -/
def isSolid (byte : UInt8) : Bool := byte ≠ slash ∧ byte ∉ dot

theorem flatten_segments (bytes : List UInt8) :
    (segments bytes).flatten = bytes.filter fun byte => byte ≠ slash := by
  induction bytes with
  | nil => rfl
  | cons byte rest ih =>
      by_cases same : byte = slash
      · simpa [segments, same] using ih
      · obtain ⟨segment, others, split⟩ := List.exists_cons_of_ne_nil (segments_ne_nil rest)
        rw [split] at ih
        simpa [segments, same, split] using ih

theorem filter_isSolid_flatten_filter (list : List (List UInt8)) :
    (list.filter fun segment => segment ≠ [] ∧ segment ≠ dot).flatten.filter isSolid =
      list.flatten.filter isSolid := by
  induction list with
  | nil => rfl
  | cons segment others ih =>
      by_cases named : segment ≠ [] ∧ segment ≠ dot
      · rw [List.filter_cons_of_pos (by simpa using named)]
        simp only [List.flatten_cons, List.filter_append, ih]
      · have hollow : segment.filter isSolid = [] := by
          rcases Decidable.not_and_iff_not_or_not.mp named with empty | isDot
          · rw [not_not.mp empty]
            rfl
          · rw [not_not.mp isDot]
            decide
        rw [List.filter_cons_of_neg (by simpa using named), ih, List.flatten_cons,
          List.filter_append, hollow, List.nil_append]

theorem filter_isSolid_steps (path : Path) :
    path.components.steps.flatten.filter isSolid = path.bytes.filter isSolid := by
  rw [components, filter_isSolid_flatten_filter, flatten_segments, List.filter_filter]
  refine List.filter_congr fun byte _ => ?_
  simp only [isSolid]
  grind

theorem SameComponents.filter_isSolid {first second : Path} (same : SameComponents first second) :
    first.bytes.filter isSolid = second.bytes.filter isSolid := by
  rw [← filter_isSolid_steps first, ← filter_isSolid_steps second, same]

/-- Every byte of a blank is kept by the components of a path. -/
theorem filter_isSolid_encode {blanks : List Char}
    (blank : ∀ character ∈ blanks, Text.isBlank character = true) :
    (Utf8.encode blanks).filter isSolid = Utf8.encode blanks := by
  refine List.filter_eq_self.mpr fun byte member => ?_
  obtain ⟨character, among, spells⟩ := List.mem_flatMap.mp member
  have other (sign : Char) (ascii : sign.toNat < 0x80) (solid : Text.isBlank sign = false) :
      byte.toNat ≠ sign.toNat := by
    intro code
    have same := Utf8.eq_of_mem_encodeChar (by omega) spells
    rw [Char.toNat_inj.mp (same.trans code)] at among
    exact Bool.false_ne_true (solid.symm.trans (blank sign among))
  have notSlash : byte ≠ slash := by
    rintro rfl
    exact other '/' (by decide) (by decide) rfl
  have notDot : byte ≠ 46 := by
    rintro rfl
    exact other '.' (by decide) (by decide) rfl
  simp [isSolid, dot, notSlash, notDot]

/-- A text with blanks at its ends has other components than what is left of it between
them. -/
theorem isTrimmed_of_sameComponents {text : List Char}
    (same : SameComponents (ofText text) (ofText (Text.trim text))) : Text.IsTrimmed text := by
  obtain ⟨lead, trail, whole, leads, trails⟩ := Text.exists_blanks_trim text
  have kept : (Utf8.encode text).filter isSolid =
      (Utf8.encode (Text.trim text)).filter isSolid := same.filter_isSolid
  rw [whole, Utf8.encode_append, Utf8.encode_append, ← whole, List.filter_append,
    List.filter_append, filter_isSolid_encode leads, filter_isSolid_encode trails] at kept
  have count := congrArg List.length kept
  simp only [List.length_append] at count
  have noLead : Utf8.encode lead = [] := List.eq_nil_of_length_eq_zero (by omega)
  have noTrail : Utf8.encode trail = [] := List.eq_nil_of_length_eq_zero (by omega)
  have empty {blanks : List Char} (none' : Utf8.encode blanks = []) : blanks = [] := by
    rw [← Utf8.display_encode blanks, none']
    rfl
  rw [empty noLead, empty noTrail, List.nil_append, List.append_nil] at whole
  rw [whole]
  exact Text.isTrimmed_trim text

end Path
end FileConfinement
