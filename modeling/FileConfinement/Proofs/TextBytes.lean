import FileConfinement.Path
import Mathlib.Data.List.TakeWhile

/-!
# Text as bytes and back

Decoding reads back what encoding wrote, and what decodes is the encoding of its text.  So a
path that is text is the path of that text, byte for byte.
-/

namespace FileConfinement
namespace Utf8

theorem tailLength_eq (first : UInt8) :
    tailLength first =
      if 0xC2 ≤ first.toNat ∧ first.toNat ≤ 0xDF then 1
      else if 0xE0 ≤ first.toNat ∧ first.toNat ≤ 0xEF then 2
      else if 0xF0 ≤ first.toNat ∧ first.toNat ≤ 0xF4 then 3
      else 0 := by
  simp [tailLength, UInt8.le_iff_toNat_le]

theorem isContinuation_iff (byte : UInt8) :
    isContinuation byte = true ↔ 0x80 ≤ byte.toNat ∧ byte.toNat ≤ 0xBF := by
  simp [isContinuation, UInt8.le_iff_toNat_le]

theorem isSecond_iff (first second : UInt8) :
    isSecond first second = true ↔
      0x80 ≤ second.toNat ∧ second.toNat ≤ 0xBF ∧
        (first.toNat = 0xE0 → 0xA0 ≤ second.toNat) ∧ (first.toNat = 0xF0 → 0x90 ≤ second.toNat) ∧
        (first.toNat = 0xED → second.toNat ≤ 0x9F) ∧
        (first.toNat = 0xF4 → second.toNat ≤ 0x8F) := by
  have spelled (code : UInt8) : first = code ↔ first.toNat = code.toNat := UInt8.toNat_inj.symm
  simp only [isSecond, spelled, Bool.and_eq_true, decide_eq_true_eq, UInt8.le_iff_toNat_le,
    UInt8.reduceToNat, apply_ite UInt8.toNat]
  split_ifs <;> omega

/-- Some bytes complete a first byte to a character of more than one byte. -/
def Completes (first : UInt8) : List UInt8 → Prop
  | [] => False
  | second :: others =>
      others.length + 1 = tailLength first ∧ isSecond first second = true ∧
        ∀ other ∈ others, isContinuation other = true

theorem following_append {first : UInt8} {bytes : List UInt8} (completes : Completes first bytes)
    (rest : List UInt8) : following first (bytes ++ rest) = bytes := by
  cases bytes with
  | nil => exact completes.elim
  | cons second others =>
      obtain ⟨count, fits, continue'⟩ := completes
      rw [following, ← count]
      simp only [List.cons_append, tail, fits, if_true, List.take_left']
      rw [List.takeWhile_eq_self_iff.mpr continue']

theorem following_isPrefixOf (first : UInt8) (rest : List UInt8) :
    following first rest <+: rest := by
  rw [following]
  cases tailLength first with
  | zero => exact List.nil_prefix
  | succ count =>
      cases rest with
      | nil => exact List.prefix_rfl
      | cons second rest =>
          simp only [tail]
          split
          · rw [List.prefix_cons_inj]
            exact (List.takeWhile_prefix _).trans (List.take_prefix _ _)
          · exact List.nil_prefix

theorem completes_following {first : UInt8} {rest : List UInt8}
    (some' : 0 < (following first rest).length)
    (full : (following first rest).length = tailLength first) :
    Completes first (following first rest) := by
  rw [following] at some' full ⊢
  cases needed : tailLength first with
  | zero => simp [needed, tail] at some'
  | succ count =>
      rw [needed] at some' full
      cases rest with
      | nil => simp [tail] at some'
      | cons second rest =>
          simp only [tail] at some' full ⊢
          split at some'
          · rename_i fits
            simp only [fits, if_true] at full ⊢
            refine ⟨full.trans needed.symm, fits, fun other member => ?_⟩
            exact List.mem_takeWhile_imp member
          · simp at some'

/-- The bytes of a character: an ASCII byte alone, or a first byte that others complete. -/
theorem encodeChar_cases (character : Char) :
    (∃ first : UInt8, encodeChar character = [first] ∧ first.toNat = character.toNat ∧
      first.toNat < 0x80) ∨
    ∃ first bytes, encodeChar character = first :: bytes ∧ Completes first bytes ∧
      codePoint first bytes = character.toNat := by
  have valid : character.toNat < 0xD800 ∨ 0xDFFF < character.toNat ∧ character.toNat < 0x110000 :=
    character.valid
  generalize spelled : character.toNat = code at valid
  simp only [encodeChar, spelled]
  split_ifs
  · refine .inl ⟨_, rfl, ?_, ?_⟩ <;> rw [UInt8.toNat_ofNat'] <;> omega
  -- two, three and four bytes
  all_goals
    refine .inr ⟨_, _, rfl, ⟨?_, ?_, ?_⟩, ?_⟩
    · rw [tailLength_eq, UInt8.toNat_ofNat']
      simp only [List.length_cons, List.length_nil]
      split_ifs <;> omega
    · simp only [isSecond_iff, UInt8.toNat_ofNat']
      omega
    · simp only [List.mem_cons, List.not_mem_nil, or_false, forall_eq_or_imp, forall_eq,
        isContinuation_iff, UInt8.toNat_ofNat', false_imp_iff, implies_true]
      try omega
    · simp only [codePoint, List.length_cons, List.length_nil, List.foldl_cons, List.foldl_nil,
        UInt8.toNat_ofNat']
      omega

theorem toNat_ofNat_of_isValidChar {code : Nat} (valid : code.isValidChar) :
    (Char.ofNat code).toNat = code := by
  rw [Char.ofNat, dif_pos valid]
  rfl

theorem encodeChar_ascii {first : UInt8} (ascii : first.toNat < 0x80) :
    encodeChar (Char.ofNat first.toNat) = [first] := by
  have code : (Char.ofNat first.toNat).toNat = first.toNat :=
    toNat_ofNat_of_isValidChar (.inl (by omega))
  simp [encodeChar, code, ascii]

/-- The three lengths of a character of more than one byte, in numbers. -/
theorem Completes.cases {first : UInt8} {bytes : List UInt8} (completes : Completes first bytes) :
    (∃ second, bytes = [second] ∧ 0xC2 ≤ first.toNat ∧ first.toNat ≤ 0xDF ∧
      isSecond first second = true) ∨
    (∃ second third, bytes = [second, third] ∧ 0xE0 ≤ first.toNat ∧ first.toNat ≤ 0xEF ∧
      isSecond first second = true ∧ isContinuation third = true) ∨
    ∃ second third fourth, bytes = [second, third, fourth] ∧ 0xF0 ≤ first.toNat ∧
      first.toNat ≤ 0xF4 ∧ isSecond first second = true ∧ isContinuation third = true ∧
      isContinuation fourth = true := by
  cases bytes with
  | nil => exact completes.elim
  | cons second others =>
      obtain ⟨count, fits, continue'⟩ := completes
      rw [tailLength_eq] at count
      match others, count, continue' with
      | [], count, _ =>
          refine .inl ⟨second, rfl, ?_, ?_, fits⟩ <;> split_ifs at count <;> simp_all
      | [third], count, continue' =>
          refine .inr (.inl ⟨second, third, rfl, ?_, ?_, fits, continue' third (by simp)⟩) <;>
            split_ifs at count <;> simp_all
      | [third, fourth], count, continue' =>
          refine .inr (.inr ⟨second, third, fourth, rfl, ?_, ?_, fits, continue' third (by simp),
            continue' fourth (by simp)⟩) <;> split_ifs at count <;> simp_all
      | _ :: _ :: _ :: _, count, _ =>
          simp only [List.length_cons] at count
          split_ifs at count <;> omega

theorem encodeChar_codePoint {first : UInt8} {bytes : List UInt8}
    (completes : Completes first bytes) :
    encodeChar (Char.ofNat (codePoint first bytes)) = first :: bytes := by
  have spelled {number : Nat} (byte : UInt8) (same : number = byte.toNat) :
      UInt8.ofNat number = byte := by rw [same, UInt8.ofNat_toNat]
  obtain ⟨code, decoded⟩ : ∃ code, codePoint first bytes = code := ⟨_, rfl⟩
  rw [decoded]
  rcases completes.cases with ⟨second, rfl, low, high, fits⟩ |
      ⟨second, third, rfl, low, high, fits, more⟩ |
      ⟨second, third, fourth, rfl, low, high, fits, more, last⟩
  all_goals
    simp only [isSecond_iff, isContinuation_iff] at *
    simp only [codePoint, List.length_cons, List.length_nil, List.foldl_cons, List.foldl_nil]
      at decoded
    have valid : code.isValidChar := by
      unfold Nat.isValidChar
      omega
    rw [encodeChar, toNat_ofNat_of_isValidChar valid]
  · rw [if_neg (by omega), if_pos (by omega), spelled first (by omega),
      spelled second (by omega)]
  · rw [if_neg (by omega), if_neg (by omega), if_pos (by omega), spelled first (by omega),
      spelled second (by omega), spelled third (by omega)]
  · rw [if_neg (by omega), if_neg (by omega), if_neg (by omega), spelled first (by omega),
      spelled second (by omega), spelled third (by omega), spelled fourth (by omega)]

theorem headPiece_append {first : UInt8} {bytes : List UInt8} (completes : Completes first bytes)
    (rest : List UInt8) :
    headPiece first (bytes ++ rest) = .whole (Char.ofNat (codePoint first bytes)) := by
  have full : 0 < bytes.length ∧ bytes.length = tailLength first := by
    cases bytes with
    | nil => exact completes.elim
    | cons second others => exact ⟨Nat.succ_pos _, completes.1⟩
  rw [headPiece, following_append completes rest, if_pos (by simp [← full.2, full.1])]

theorem ascii_iff (first : UInt8) : first < 0x80 ↔ first.toNat < 0x80 := by
  simp [UInt8.lt_iff_toNat_lt]

theorem following_ascii {first : UInt8} (ascii : first.toNat < 0x80) (rest : List UInt8) :
    following first rest = [] := by
  have none' : tailLength first = 0 := by
    rw [tailLength_eq]
    split_ifs <;> omega
  rw [following, none']
  rfl

theorem pieces_encodeChar_append (character : Char) (rest : List UInt8) :
    pieces (encodeChar character ++ rest) = .whole character :: pieces rest := by
  rcases encodeChar_cases character with ⟨first, spelled, code, ascii⟩ |
      ⟨first, bytes, spelled, completes, code⟩
  · rw [spelled, List.singleton_append, pieces_cons, following_ascii ascii, headPiece,
      following_ascii ascii, if_pos (by simp [ascii_iff, ascii])]
    simp [codePoint, code]
  · rw [spelled, List.cons_append, pieces_cons, following_append completes,
      headPiece_append completes, code, Char.ofNat_toNat, List.drop_left]

theorem encodeChar_of_headPiece {first : UInt8} {rest : List UInt8} {character : Char}
    (whole : headPiece first rest = .whole character) :
    encodeChar character = first :: following first rest := by
  rw [headPiece] at whole
  split at whole
  · rename_i complete
    rw [← Piece.whole.inj whole]
    simp only [Bool.or_eq_true, Bool.and_eq_true, decide_eq_true_eq] at complete
    rcases complete with ascii | ⟨some', full⟩
    · rw [ascii_iff] at ascii
      rw [following_ascii ascii]
      exact encodeChar_ascii ascii
    · exact encodeChar_codePoint (completes_following some' full)
  · exact absurd whole Piece.noConfusion

theorem pieces_encode (text : List Char) : pieces (encode text) = text.map Piece.whole := by
  induction text with
  | nil => rfl
  | cons character text ih => rw [encode_cons, pieces_encodeChar_append, ih, List.map_cons]

@[simp] theorem decode?_encode (text : List Char) : decode? (encode text) = some text := by
  rw [decode?, pieces_encode, List.mapM_map]
  induction text with
  | nil => rfl
  | cons character text ih => simp_all [Piece.character?, Function.comp_def]

@[simp] theorem display_encode (text : List Char) : display (encode text) = text := by
  simp [display, pieces_encode, Function.comp_def, Piece.display]

/-- A byte string that is text encodes that text. -/
theorem encode_of_decode? {bytes : List UInt8} {text : List Char}
    (decoded : decode? bytes = some text) : encode text = bytes := by
  -- on the number of bytes: a piece takes several of them at once
  induction size : bytes.length using Nat.strong_induction_on generalizing bytes text with
  | _ bound ih =>
      cases bytes with
      | nil => simp_all [decode?]
      | cons first rest =>
          rw [decode?, pieces_cons, List.mapM_cons] at decoded
          simp only [Option.bind_eq_bind, Option.bind_eq_some_iff, Option.pure_def,
            Option.some.injEq] at decoded
          obtain ⟨character, piece, others, decoded, rfl⟩ := decoded
          have whole : headPiece first rest = .whole character := by
            cases named : headPiece first rest <;> simp_all [Piece.character?]
          have shorter : (rest.drop (following first rest).length).length < bound := by
            rw [← size, List.length_drop, List.length_cons]
            omega
          rw [encode_cons, encodeChar_of_headPiece whole, ih _ shorter decoded rfl,
            List.cons_append, List.prefix_iff_eq_append.mp (following_isPrefixOf first rest)]

theorem decode?_eq_some_iff {bytes : List UInt8} {text : List Char} :
    decode? bytes = some text ↔ bytes = encode text := by
  constructor
  · exact fun decoded => (encode_of_decode? decoded).symm
  · rintro rfl
    exact decode?_encode text

end Utf8

namespace Path

theorem text?_eq_some_iff {path : Path} {text : List Char} :
    path.text? = some text ↔ path = ofText text := by
  rw [text?, Utf8.decode?_eq_some_iff, ofText]
  exact ⟨fun bytes => congrArg Path.mk bytes, fun same => congrArg Path.bytes same⟩

@[simp] theorem text?_ofText (text : List Char) : (ofText text).text? = some text :=
  text?_eq_some_iff.mpr rfl

@[simp] theorem display_ofText (text : List Char) :
    (ofText text).display = String.ofList text := by
  rw [display, ofText, Utf8.display_encode]

end Path
end FileConfinement
