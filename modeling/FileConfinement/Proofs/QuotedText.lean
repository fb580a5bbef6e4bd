import FileConfinement.Proofs.DocumentGrammar
import FileConfinement.Proofs.TextBytes
import FileConfinement.Document.Layout
import Mathlib.Tactic.IntervalCases

/-!
# Quoted text

The reader of quoted text accepts exactly the spellings of a text, and leaves what stands
behind the closing quote.  What is written for a text is one of its spellings.
-/

namespace FileConfinement
namespace Document

/-- A digit whose code lies a number behind that of the least digit of its kind. -/
theorem isHexDigit_of_code {digit : Char} {value : Nat}
    (code : digit.toNat = '0'.toNat + value ∧ value < 10 ∨
      digit.toNat = 'a'.toNat + (value - 10) ∧ 10 ≤ value ∧ value < 16 ∨
      digit.toNat = 'A'.toNat + (value - 10) ∧ 10 ≤ value ∧ value < 16) :
    IsHexDigit digit value := by
  rw [← Char.ofNat_toNat digit]
  rcases code with ⟨code, small⟩ | ⟨code, least, small⟩ | ⟨code, least, small⟩ <;>
    rw [code] <;> interval_cases value <;> decide

theorem hexValue?_eq_some_iff {digit : Char} {value : Nat} :
    hexValue? digit = some value ↔ IsHexDigit digit value := by
  constructor
  · intro read
    apply isHexDigit_of_code
    simp only [hexValue?, Char.isDigit_iff_toNat, Char.le_def, UInt32.le_iff_toNat_le,
      Char.toNat_val, Char.reduceToNat] at read ⊢
    split at read
    · obtain rfl := Option.some.inj read
      omega
    · split at read
      · obtain rfl := Option.some.inj read
        omega
      · split at read
        · obtain rfl := Option.some.inj read
          omega
        · simp at read
  · rintro ⟨small, rfl | rfl⟩ <;> interval_cases value <;> decide

theorem length_le_size (text : List Char) : text.length ≤ Utf8.size text := by
  induction text with
  | nil => exact Nat.le_refl 0
  | cons character text ih =>
      have positive : 0 < (Utf8.encodeChar character).length := by
        rcases Utf8.encodeChar_cases character with ⟨_, bytes, _⟩ | ⟨_, _, bytes, _⟩ <;>
          simp [bytes]
      simp only [Utf8.size, Utf8.encode_cons, List.length_append, List.length_cons] at ih ⊢
      omega

theorem readUnit_append {digits : List Char} {number : Nat} (spells : SpellsUnit digits number)
    (rest : List Char) : readUnit (digits ++ rest) = .ok (number, rest) := by
  obtain ⟨first, second, third, fourth, a, b, c, d, rfl, isFirst, isSecond, isThird, isFourth,
    rfl⟩ := spells
  have long : ¬ Utf8.size (first :: second :: third :: fourth :: rest) < 4 := by
    have long := length_le_size (first :: second :: third :: fourth :: rest)
    simp only [List.length_cons] at long
    omega
  simp only [List.cons_append, List.nil_append, readUnit, if_neg long,
    hexValue?_eq_some_iff.mpr isFirst, hexValue?_eq_some_iff.mpr isSecond,
    hexValue?_eq_some_iff.mpr isThird, hexValue?_eq_some_iff.mpr isFourth]
  congr 2
  omega

theorem spellsUnit_of_readUnit {unread rest : List Char} {number : Nat}
    (read : readUnit unread = .ok (number, rest)) :
    ∃ digits, unread = digits ++ rest ∧ SpellsUnit digits number := by
  unfold readUnit at read
  split at read
  · simp at read
  · split at read
    · rename_i first second third fourth rest' _
      split at read
      · rename_i a b c d isFirst isSecond isThird isFourth
        simp only [Except.ok.injEq, Prod.mk.injEq] at read
        obtain ⟨rfl, rfl⟩ := read
        refine ⟨[first, second, third, fourth], rfl, first, second, third, fourth, a, b, c, d, rfl,
          hexValue?_eq_some_iff.mp isFirst, hexValue?_eq_some_iff.mp isSecond,
          hexValue?_eq_some_iff.mp isThird, hexValue?_eq_some_iff.mp isFourth, ?_⟩
        omega
      · simp at read
    · simp at read

theorem simpleEscape?_eq_some_iff {letter character : Char} :
    simpleEscape? letter = some character ↔ (letter, character) ∈ letterEscapes := by
  constructor
  · intro stands
    unfold simpleEscape? at stands
    split at stands
    case h_9 => simp at stands
    all_goals
      rw [← Option.some.inj stands]
      decide
  · intro listed
    simp only [letterEscapes, List.mem_cons, Prod.mk.injEq, List.not_mem_nil, or_false] at listed
    rcases listed with ⟨rfl, rfl⟩ | ⟨rfl, rfl⟩ | ⟨rfl, rfl⟩ | ⟨rfl, rfl⟩ | ⟨rfl, rfl⟩ |
      ⟨rfl, rfl⟩ | ⟨rfl, rfl⟩ | ⟨rfl, rfl⟩ <;> rfl

/-- What an escape spells is read behind its backslash. -/
theorem readEscape_append {literal : List Char} {character : Char}
    (spells : SpellsChar ('\\' :: literal) character) (rest : List Char) :
    readEscape (literal ++ rest) = .ok (character, rest) := by
  generalize escape : '\\' :: literal = whole at spells
  cases spells with
  | itself visible unquoted unescaped => exact absurd (List.cons.inj escape).1.symm unescaped
  | letter listed =>
      obtain rfl := (List.cons.inj escape).2
      have stands := simpleEscape?_eq_some_iff.mpr listed
      rw [List.singleton_append]
      unfold readEscape
      split
      · simp_all
      · rename_i same
        obtain rfl := (List.cons.inj same).1
        simp [simpleEscape?] at stands
      · rename_i same
        obtain ⟨rfl, rfl⟩ := List.cons.inj same
        simp [stands]
  | @unit digits number spells whole =>
      obtain rfl := (List.cons.inj escape).2
      have single : isTrailingSurrogate number = false ∧ isLeadingSurrogate number = false := by
        simp only [isTrailingSurrogate, isLeadingSurrogate, Bool.and_eq_false_iff,
          decide_eq_false_iff_not]
        omega
      simp [readEscape, readNumericEscape, readUnit_append spells, single, bind, Except.bind, pure,
        Except.pure]
  | @pair digits digits' high low spells spells' isHigh isLow =>
      obtain rfl := (List.cons.inj escape).2
      have surrogates : isTrailingSurrogate high = false ∧ isLeadingSurrogate high = true ∧
          isTrailingSurrogate low = true := by
        simp only [isTrailingSurrogate, isLeadingSurrogate, Bool.and_eq_false_iff, Bool.and_eq_true,
          decide_eq_false_iff_not, decide_eq_true_eq]
        omega
      simp [readEscape, readNumericEscape, readUnit_append spells, readUnit_append spells',
        surrogates, bind, Except.bind, pure, Except.pure]

theorem spellsChar_of_readNumericEscape {unread rest : List Char} {character : Char}
    (read : readNumericEscape unread = .ok (character, rest)) :
    ∃ literal, unread = literal ++ rest ∧ SpellsChar ('\\' :: 'u' :: literal) character := by
  unfold readNumericEscape at read
  cases unit : readUnit unread with
  | error fault => simp [unit, bind, Except.bind] at read
  | ok result =>
      obtain ⟨number, afterUnit⟩ := result
      obtain ⟨digits, rfl, spells⟩ := spellsUnit_of_readUnit unit
      simp only [unit, bind, Except.bind] at read
      split at read
      · simp at read
      · rename_i notTrailing
        split at read
        · rename_i leading
          split at read
          · rename_i afterEscape
            cases second : readUnit afterEscape with
            | error fault => simp [second] at read
            | ok result =>
                obtain ⟨low, behind⟩ := result
                obtain ⟨digits', rfl, spells'⟩ := spellsUnit_of_readUnit second
                simp only [second] at read
                split at read
                · rename_i trailing
                  simp only [pure, Except.pure, Except.ok.injEq, Prod.mk.injEq] at read
                  obtain ⟨rfl, rfl⟩ := read
                  simp only [isLeadingSurrogate, isTrailingSurrogate, Bool.and_eq_true,
                    decide_eq_true_eq] at leading trailing
                  exact ⟨digits ++ '\\' :: 'u' :: digits', by simp,
                    .pair spells spells' leading trailing⟩
                · simp at read
          all_goals simp at read
        · rename_i notLeading
          simp only [pure, Except.pure, Except.ok.injEq, Prod.mk.injEq] at read
          obtain ⟨rfl, rfl⟩ := read
          refine ⟨digits, rfl, .unit spells ?_⟩
          simp only [isLeadingSurrogate, isTrailingSurrogate, Bool.and_eq_true,
            decide_eq_true_eq] at notLeading notTrailing
          omega

theorem spellsChar_of_readEscape {unread rest : List Char} {character : Char}
    (read : readEscape unread = .ok (character, rest)) :
    ∃ literal, unread = literal ++ rest ∧ SpellsChar ('\\' :: literal) character := by
  unfold readEscape at read
  split at read
  · simp at read
  · obtain ⟨literal, rfl, spells⟩ := spellsChar_of_readNumericEscape read
    exact ⟨'u' :: literal, rfl, spells⟩
  · rename_i letter behind _
    split at read
    · rename_i stands
      simp only [Except.ok.injEq, Prod.mk.injEq] at read
      obtain ⟨rfl, rfl⟩ := read
      exact ⟨[letter], rfl, .letter (simpleEscape?_eq_some_iff.mp stands)⟩
    · simp at read

theorem readQuoted_escape {unread behind : List Char} {character : Char}
    (escape : readEscape unread = .ok (character, behind)) :
    readQuoted ('\\' :: unread) =
      (readQuoted behind).map fun (text, rest) => (character :: text, rest) := by
  rw [readQuoted]
  split
  · rename_i failed
    simp [escape] at failed
  · rename_i read
    rw [escape] at read
    obtain ⟨rfl, rfl⟩ := Prod.mk.inj (Except.ok.inj read)
    cases readQuoted behind <;> rfl

theorem readQuoted_itself {character : Char} (visible : 0x20 ≤ character.toNat)
    (unquoted : character ≠ '"') (unescaped : character ≠ '\\') (unread : List Char) :
    readQuoted (character :: unread) =
      (readQuoted unread).map fun (text, rest) => (character :: text, rest) := by
  rw [readQuoted, if_neg (by omega)]
  · cases readQuoted unread <;> rfl
  · exact unquoted
  · exact unescaped

theorem readQuoted_spelled {literal : List Char} {character : Char}
    (spells : SpellsChar literal character) (unread : List Char) :
    readQuoted (literal ++ unread) =
      (readQuoted unread).map fun (text, rest) => (character :: text, rest) := by
  cases literal with
  | nil => cases spells
  | cons first literal =>
      by_cases escaped : first = '\\'
      · subst escaped
        exact readQuoted_escape (readEscape_append spells unread)
      · cases spells with
        | itself visible unquoted unescaped => exact readQuoted_itself visible unquoted unescaped _
        | _ => exact absurd rfl escaped

/-- The reader of quoted text reads every spelling, up to and with the closing quote. -/
theorem readQuoted_append {literal text : List Char} (spells : SpellsChars literal text)
    (rest : List Char) : readQuoted (literal ++ '"' :: rest) = .ok (text, rest) := by
  induction spells with
  | nil => rw [List.nil_append, readQuoted]
  | cons spells others ih =>
      rw [List.append_assoc, readQuoted_spelled spells, ih]
      rfl

/-- Whatever is read as quoted text is a spelling of it. -/
theorem spellsChars_of_readQuoted {unread text rest : List Char}
    (read : readQuoted unread = .ok (text, rest)) :
    ∃ literal, unread = literal ++ '"' :: rest ∧ SpellsChars literal text := by
  fun_induction readQuoted unread generalizing text rest with
  | case1 => simp at read
  | case2 behind =>
      simp only [Except.ok.injEq, Prod.mk.injEq] at read
      obtain ⟨rfl, rfl⟩ := read
      exact ⟨[], rfl, .nil⟩
  | case3 => simp at read
  | case4 => simp at read
  | case5 unread character behind escape shorter text' rest' inner ih =>
      simp only [Except.ok.injEq, Prod.mk.injEq] at read
      obtain ⟨rfl, rfl⟩ := read
      obtain ⟨head, rfl, spells⟩ := spellsChar_of_readEscape escape
      obtain ⟨tail, rfl, others⟩ := ih inner
      exact ⟨'\\' :: head ++ tail, by simp, .cons spells others⟩
  | case6 => simp at read
  | case7 => simp at read
  | case8 character unread unquoted unescaped visible text' rest' inner ih =>
      simp only [Except.ok.injEq, Prod.mk.injEq] at read
      obtain ⟨rfl, rfl⟩ := read
      obtain ⟨tail, rfl, others⟩ := ih inner
      exact ⟨[character] ++ tail, by simp,
        .cons (.itself (Nat.le_of_not_lt visible) unquoted unescaped) others⟩

/-! ### Written text -/

theorem spellsUnit_ofControl {code : Nat} (small : code < 0x20) :
    SpellsUnit ['0', '0', hexDigit (code / 16), hexDigit (code % 16)] code := by
  refine ⟨'0', '0', hexDigit (code / 16), hexDigit (code % 16), 0, 0, code / 16, code % 16, rfl,
    by decide, by decide, ⟨by omega, .inl rfl⟩, ⟨by omega, .inl rfl⟩, by omega⟩

theorem spellsChar_escapeChar (character : Char) :
    SpellsChar (escapeChar character) character := by
  fun_cases escapeChar character with
  | case8 _ _ _ _ _ _ _ small =>
      have spelled := SpellsChar.unit (spellsUnit_ofControl small) (by omega)
      rwa [Char.ofNat_toNat] at spelled
  | case9 unquoted unescaped _ _ _ _ _ visible =>
      exact .itself (Nat.le_of_not_lt visible) unquoted unescaped
  | _ =>
      subst_vars
      exact .letter (by decide)

theorem spellsText_writeText (text : List Char) : SpellsText (writeText text) text := by
  refine ⟨text.flatMap escapeChar, rfl, ?_⟩
  induction text with
  | nil => exact .nil
  | cons character text ih => exact .cons (spellsChar_escapeChar character) ih

end Document
end FileConfinement
