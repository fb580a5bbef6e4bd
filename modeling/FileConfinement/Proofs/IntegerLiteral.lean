import FileConfinement.Proofs.Reading

/-!
# Reading user identities

The reader of user identities accepts exactly the decimal digits of a number of 32 bits.
Every fraction and every exponent makes a floating-point number, whatever its value, and a
minus sign a negative number or a floating-point zero.
-/

namespace FileConfinement
namespace Document

theorem EndsValue.startsWithDigit {rest : List Char} (ends : EndsValue rest) :
    startsWithDigit rest = false := by
  cases rest with
  | nil => rfl
  | cons character rest =>
      have last := ends character rfl
      simp only [isSpace, Bool.or_eq_true, decide_eq_true_eq] at last
      rcases last with (((rfl | rfl) | rfl) | rfl) | rfl | rfl | rfl <;> rfl

theorem digitChar_of_isDigit {digit : Char} (isDigit : digit.isDigit = true) :
    digit.toNat - '0'.toNat < 10 ∧ Nat.digitChar (digit.toNat - '0'.toNat) = digit := by
  rw [Char.isDigit_iff_toNat] at isDigit
  simp only [Char.reduceToNat] at isDigit ⊢
  refine ⟨by omega, Char.toNat_inj.mp ?_⟩
  rw [Nat.toNat_digitChar_of_lt_ten (by omega)]
  omega

theorem toDigits_of_isDigit {digit : Char} (isDigit : digit.isDigit = true) :
    Nat.toDigits 10 (digit.toNat - '0'.toNat) = [digit] := by
  obtain ⟨small, spelled⟩ := digitChar_of_isDigit isDigit
  rw [Nat.toDigits_of_lt_base small, spelled]

theorem toDigits_append_digit {value : Nat} (positive : 0 < value) {digit : Char}
    (isDigit : digit.isDigit = true) :
    Nat.toDigits 10 value ++ [digit] =
      Nat.toDigits 10 (value * 10 + (digit.toNat - '0'.toNat)) := by
  rw [Nat.mul_comm,
    ← Nat.toDigits_append_toDigits (by decide) positive (digitChar_of_isDigit isDigit).1,
    toDigits_of_isDigit isDigit]

/-- Digits that are taken extend the number in front of them. -/
theorem toDigits_of_absorbDigits {limit value final count : Nat} {unread rest : List Char}
    (positive : 0 < value) (absorbed : absorbDigits limit value unread = (final, count, rest)) :
    ∃ digits, unread = digits ++ rest ∧
      Nat.toDigits 10 final = Nat.toDigits 10 value ++ digits := by
  induction unread generalizing value final count with
  | nil =>
      simp only [absorbDigits, Prod.mk.injEq] at absorbed
      obtain ⟨rfl, _, rfl⟩ := absorbed
      exact ⟨[], rfl, by simp⟩
  | cons character unread ih =>
      simp only [absorbDigits] at absorbed
      split at absorbed
      · rename_i taken
        simp only [Prod.mk.injEq] at absorbed
        obtain ⟨rfl, _, rfl⟩ := absorbed
        obtain ⟨digits, split, spelled⟩ := ih (by omega) rfl
        refine ⟨character :: digits, by rw [List.cons_append, ← split], ?_⟩
        rw [spelled, ← toDigits_append_digit positive taken.1]
        simp
      · simp only [Prod.mk.injEq] at absorbed
        obtain ⟨rfl, _, rfl⟩ := absorbed
        exact ⟨[], rfl, by simp⟩

/-- Digits that begin with another one than zero are the digits of the number they make up. -/
theorem cons_eq_of_absorbDigits {limit final count : Nat} {first : Char}
    {unread rest : List Char} (room : 9 ≤ limit) (nonzero : first ≠ '0')
    (isDigit : first.isDigit = true)
    (absorbed : absorbDigits limit 0 (first :: unread) = (final, count, rest)) :
    first :: unread = Nat.toDigits 10 final ++ rest := by
  obtain ⟨small, spelled⟩ := digitChar_of_isDigit isDigit
  have positive : 0 < first.toNat - '0'.toNat := by
    refine Nat.pos_of_ne_zero fun zero => nonzero ?_
    rw [← spelled, zero]
    rfl
  simp only [absorbDigits, Nat.zero_mul, Nat.zero_add] at absorbed
  rw [if_pos ⟨isDigit, by omega⟩] at absorbed
  simp only [Prod.mk.injEq] at absorbed
  obtain ⟨rfl, _, rfl⟩ := absorbed
  have taken : absorbDigits limit (first.toNat - '0'.toNat) unread = (_, _, _) := rfl
  obtain ⟨digits, split, extended⟩ := toDigits_of_absorbDigits positive taken
  rw [extended, toDigits_of_isDigit isDigit, List.append_assoc, ← split]
  rfl

theorem le_ofDigitChars (digits : List Char) (value : Nat) :
    value ≤ Nat.ofDigitChars 10 digits value := by
  rw [Nat.ofDigitChars_eq_ofDigitChars_zero]
  exact Nat.le_trans (Nat.le_mul_of_pos_left value (Nat.pow_pos (by decide))) (Nat.le_add_right _ _)

/-- Digits are taken as long as the number stays within the limit. -/
theorem absorbDigits_append {limit : Nat} {digits rest : List Char} {value : Nat}
    (allDigits : ∀ digit ∈ digits, digit.isDigit = true) (ends : startsWithDigit rest = false)
    (within : Nat.ofDigitChars 10 digits value ≤ limit) :
    absorbDigits limit value (digits ++ rest) =
      (Nat.ofDigitChars 10 digits value, digits.length, rest) := by
  induction digits generalizing value with
  | nil =>
      cases rest with
      | nil => rfl
      | cons character rest =>
          have : character.isDigit = false := ends
          simp [absorbDigits, this]
  | cons digit digits ih =>
      rw [Nat.ofDigitChars_cons, Nat.mul_comm] at within ⊢
      have extended := Nat.le_trans (le_ofDigitChars digits _) within
      rw [List.cons_append, absorbDigits, if_pos ⟨allDigits digit (by simp), extended⟩,
        ih (fun other member => allDigits other (by simp [member])) within]
      rfl

theorem readIntegerEnd_of_endsValue (negative : Bool) (significand : Nat) {rest : List Char}
    (ends : EndsValue rest) :
    readIntegerEnd negative significand rest = .ok (integerLiteral negative significand, rest) := by
  cases rest with
  | nil => rfl
  | cons character rest =>
      have last := ends character rfl
      simp only [isSpace, Bool.or_eq_true, decide_eq_true_eq] at last
      rcases last with (((rfl | rfl) | rfl) | rfl) | rfl | rfl | rfl <;> rfl

theorem head_toDigits_ne_zero {value : Nat} (positive : 0 < value) {digit : Char}
    {digits : List Char} (spelled : Nat.toDigits 10 value = digit :: digits) : digit ≠ '0' := by
  -- the first digit of a longer number is that of its tenth
  induction value using Nat.strongRecOn generalizing digits with
  | ind value ih =>
      rw [Nat.toDigits_eq_if (by decide)] at spelled
      split at spelled
      · rename_i small
        rintro rfl
        have zero : Nat.digitChar value = '0' := (List.cons.inj spelled).1
        rw [Nat.digitChar_eq_zero] at zero
        omega
      · cases higher : Nat.toDigits 10 (value / 10) with
        | nil => exact absurd higher Nat.toDigits_ne_nil
        | cons first others =>
            rw [higher, List.cons_append, List.cons.injEq] at spelled
            rw [spelled.1] at higher
            exact ih (value / 10) (by omega) (by omega) higher

/-- A number with another first digit than zero is read digit by digit. -/
theorem readNumber_cons {negative : Bool} {first : Char} (nonzero : first ≠ '0')
    (isDigit : first.isDigit = true) (unread : List Char) :
    readNumber negative (first :: unread) =
      let (significand, _, rest) := absorbDigits significandLimit 0 (first :: unread)
      if startsWithDigit rest then
        readLongEnd negative significand (rest.length - (skipDigits rest).length)
          (skipDigits rest)
      else
        readIntegerEnd negative significand rest := by
  rw [readNumber, if_pos isDigit]
  exact nonzero

/-- The decimal digits of a number that fits are read as that number. -/
theorem readNumber_toDigits {value : Nat} (fits : value ≤ significandLimit) {rest : List Char}
    (ends : EndsValue rest) :
    readNumber false (Nat.toDigits 10 value ++ rest) = .ok (.integer value, rest) := by
  rcases Nat.eq_zero_or_pos value with rfl | positive
  · rw [Nat.toDigits_zero, List.singleton_append, readNumber, ends.startsWithDigit,
      if_neg Bool.false_ne_true, readIntegerEnd_of_endsValue false 0 ends]
    rfl
  · have allDigits : ∀ digit ∈ Nat.toDigits 10 value, digit.isDigit = true := fun digit =>
      Nat.isDigit_of_mem_toDigits (by decide) (by decide)
    have within : Nat.ofDigitChars 10 (Nat.toDigits 10 value) 0 ≤ significandLimit := by
      rw [Nat.ofDigitChars_ten_toDigits]
      exact fits
    have absorbed := absorbDigits_append allDigits ends.startsWithDigit within
    rw [Nat.ofDigitChars_ten_toDigits] at absorbed
    cases spelled : Nat.toDigits 10 value with
    | nil => exact absurd spelled Nat.toDigits_ne_nil
    | cons digit digits =>
        rw [spelled] at allDigits absorbed
        rw [List.cons_append] at absorbed ⊢
        rw [readNumber_cons (head_toDigits_ne_zero positive spelled) (allDigits digit (by simp)),
          absorbed]
        simp only [ends.startsWithDigit, Bool.false_eq_true, if_false]
        rw [readIntegerEnd_of_endsValue false value ends]
        rfl

/-- What a reader of floating-point numbers answers. -/
def IsFloating (outcome : Except Fault (Found × List Char)) : Prop :=
  ∀ value rest, outcome ≠ .ok (.integer value, rest)

theorem isFloating_finishFloat (negative : Bool) (significand : Nat) (scale : Int)
    (unread : List Char) : IsFloating (finishFloat negative significand scale unread) := by
  intro value rest
  unfold finishFloat
  split <;> simp

theorem isFloating_readExponent (negative : Bool) (significand : Nat) (scale : Int)
    (unread : List Char) : IsFloating (readExponent negative significand scale unread) := by
  unfold readExponent
  intro value rest
  split
  split
  · simp
  · split
    · simp
    · split
      split
      · split <;> simp
      · exact isFloating_finishFloat _ _ _ _ value rest

theorem isFloating_readFloatEnd (negative : Bool) (significand : Nat) (scale : Int)
    (unread : List Char) : IsFloating (readFloatEnd negative significand scale unread) := by
  unfold readFloatEnd
  split
  · split
    · exact isFloating_readExponent _ _ _ _
    · exact isFloating_finishFloat _ _ _ _
  · exact isFloating_finishFloat _ _ _ _

theorem isFloating_readFraction (negative : Bool) (significand : Nat) (scale : Int)
    (unread : List Char) : IsFloating (readFraction negative significand scale unread) := by
  unfold readFraction
  intro value rest
  split
  · simp
  · split
    · simp
    · exact isFloating_readFloatEnd _ _ _ _ value rest

theorem isFloating_readLongEnd (negative : Bool) (significand scale : Nat) (unread : List Char) :
    IsFloating (readLongEnd negative significand scale unread) := by
  unfold readLongEnd
  split
  · split
    · exact isFloating_readFraction _ _ _ _
    · exact isFloating_readFloatEnd _ _ _ _
  · exact isFloating_readFloatEnd _ _ _ _

theorem integer_of_readIntegerEnd {negative : Bool} {significand : Nat} {value : Int}
    {unread rest : List Char}
    (read : readIntegerEnd negative significand unread = .ok (.integer value, rest)) :
    integerLiteral negative significand = .integer value ∧ unread = rest := by
  unfold readIntegerEnd at read
  split at read
  · split at read
    · exact absurd read (isFloating_readFraction _ _ _ _ _ _)
    · split at read
      · exact absurd read (isFloating_readExponent _ _ _ _ _ _)
      · simpa using read
  · simpa using read

/-- A minus sign makes no user identity. -/
theorem integerLiteral_minus (significand : Nat) (uid : UInt32) :
    integerLiteral true significand ≠ .integer uid.toNat := by
  unfold integerLiteral
  split
  · simp_all
  · split
    · intro same
      have := Found.integer.inj same
      omega
    · simp

/-- A number that is read as an integer is written with its decimal digits. -/
theorem toDigits_of_readNumber {negative : Bool} {value : Int} {unread rest : List Char}
    (read : readNumber negative unread = .ok (.integer value, rest)) :
    ∃ significand, integerLiteral negative significand = .integer value ∧
      unread = Nat.toDigits 10 significand ++ rest := by
  unfold readNumber at read
  split at read
  · simp at read
  · split at read
    · simp at read
    · obtain ⟨literal, rfl⟩ := integer_of_readIntegerEnd read
      exact ⟨0, literal, by rw [Nat.toDigits_zero]; rfl⟩
  · rename_i first unread nonzero
    split at read
    · rename_i isDigit
      dsimp only at read
      split at read
      · exact absurd read (isFloating_readLongEnd _ _ _ _ _ _)
      · obtain ⟨literal, left⟩ := integer_of_readIntegerEnd read
        refine ⟨_, literal, ?_⟩
        rw [← left]
        exact cons_eq_of_absorbDigits (by decide) (fun zero => nonzero (by rw [zero])) isDigit rfl
    · simp at read

theorem userIdOf_uid (uid : UInt32) (rest : List Char) :
    userIdOf (.integer uid.toNat) rest = .ok (uid, rest) := by
  have small := uid.toNat_lt
  rw [userIdOf, if_pos ⟨by omega, by simp only [UInt32.size]; omega⟩]
  simp

theorem eq_integer_of_userIdOf {found : Found} {uid : UInt32} {unread rest : List Char}
    (accepted : userIdOf found unread = .ok (uid, rest)) :
    found = .integer uid.toNat ∧ unread = rest := by
  unfold userIdOf at accepted
  split at accepted
  · rename_i value
    split at accepted
    · rename_i small
      simp only [Except.ok.injEq, Prod.mk.injEq] at accepted
      obtain ⟨rfl, rfl⟩ := accepted
      simp only [UInt32.size] at small
      refine ⟨?_, rfl⟩
      rw [UInt32.toNat_ofNat_of_lt' (by simp only [UInt32.size]; omega)]
      congr 1
      omega
    · simp at accepted
  · simp at accepted

theorem isSpace_of_isDigit {digit : Char} (isDigit : digit.isDigit = true) :
    isSpace digit = false := by
  cases space : isSpace digit with
  | false => rfl
  | true =>
      simp only [isSpace, Bool.or_eq_true, decide_eq_true_eq] at space
      rcases space with ((rfl | rfl) | rfl) | rfl <;> simp at isDigit

theorem exists_first_digit (value : Nat) :
    ∃ digit digits, Nat.toDigits 10 value = digit :: digits ∧ digit.isDigit = true := by
  cases spelled : Nat.toDigits 10 value with
  | nil => exact absurd spelled Nat.toDigits_ne_nil
  | cons digit digits =>
      refine ⟨digit, digits, rfl, Nat.isDigit_of_mem_toDigits (b := 10) (n := value) ?_ ?_ ?_⟩
      · decide
      · decide
      · rw [spelled]
        exact List.mem_cons_self

theorem readUserId_digit {first : Char} (isDigit : first.isDigit = true) (unread : List Char) :
    readUserId (first :: unread) =
      (readNumber false (first :: unread) >>= fun (found, rest) => userIdOf found rest) := by
  rw [readUserId, skipSpace_cons (isSpace_of_isDigit isDigit)]
  split
  · simp_all
  · rename_i same
    rw [(List.cons.inj same).1] at isDigit
    simp at isDigit
  · rename_i same
    obtain ⟨rfl, rfl⟩ := List.cons.inj same
    rw [if_pos isDigit]

/-- A user identity is read from its decimal digits and from nothing else. -/
theorem reads_userId : Reads readUserId SpellsUserId := by
  apply Reads.of_skipSpace
  · intro unread
    simp only [readUserId, skipSpace_skipSpace]
  · rintro literal uid rfl
    obtain ⟨digit, digits, spelled, isDigit⟩ := exists_first_digit uid.toNat
    refine ⟨digit, digits, spelled, isSpace_of_isDigit isDigit, ?_⟩
    rintro rfl
    simp at isDigit
  · rintro literal rest uid rfl ends
    have fits : uid.toNat ≤ significandLimit := by
      have small := uid.toNat_lt
      simp only [significandLimit, UInt64.size]
      omega
    have number := readNumber_toDigits fits ends
    obtain ⟨digit, digits, spelled, isDigit⟩ := exists_first_digit uid.toNat
    rw [spelled, List.cons_append] at number ⊢
    rw [readUserId_digit isDigit]
    exact bind_eq_ok_iff.mpr ⟨_, number, userIdOf_uid uid rest⟩
  · intro unread rest uid settled accepted
    rw [readUserId, settled] at accepted
    split at accepted
    · simp at accepted
    · obtain ⟨⟨found, left⟩, number, isUid⟩ := bind_eq_ok_iff.mp accepted
      obtain ⟨rfl, rfl⟩ := eq_integer_of_userIdOf isUid
      obtain ⟨significand, literal, _⟩ := toDigits_of_readNumber number
      exact absurd literal (integerLiteral_minus significand uid)
    · split at accepted
      · obtain ⟨⟨found, left⟩, number, isUid⟩ := bind_eq_ok_iff.mp accepted
        obtain ⟨rfl, rfl⟩ := eq_integer_of_userIdOf isUid
        obtain ⟨significand, literal, spelled⟩ := toDigits_of_readNumber number
        have same : significand = uid.toNat := by
          simpa [integerLiteral, Int.ofNat_inj] using literal
        exact ⟨Nat.toDigits 10 significand, spelled, congrArg (Nat.toDigits 10) same⟩
      · simp at accepted

end Document
end FileConfinement
