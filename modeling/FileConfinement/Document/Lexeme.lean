import FileConfinement.Document.Fault

/-!
# Words of a configuration document

Blanks between words, the fixed literals, and quoted text with its escapes.  Each
reader takes the unread text and answers what it read with the text it leaves.
-/

namespace FileConfinement
namespace Document

/-- Whether a character may stand between the words of a document. -/
def isSpace (character : Char) : Bool :=
  character = ' ' || character = '\n' || character = '\t' || character = '\r'

def skipSpace (unread : List Char) : List Char :=
  unread.dropWhile isSpace

theorem skipSpace_length (unread : List Char) :
    (skipSpace unread).length ≤ unread.length :=
  (List.dropWhile_sublist isSpace).length_le

def readLiteral : (literal unread : List Char) → Except Fault (List Char)
  | [], unread => .ok unread
  | _ :: _, [] => .error (.before .endOfValue [])
  | expected :: literal, character :: unread =>
      if character = expected then
        readLiteral literal unread
      else
        .error (.past .expectedLiteral (character :: unread))

/-- The value of a hexadecimal digit of either case. -/
def hexValue? (character : Char) : Option Nat :=
  if character.isDigit then
    some (character.toNat - '0'.toNat)
  else if 'a' ≤ character ∧ character ≤ 'f' then
    some (character.toNat - 'a'.toNat + 10)
  else if 'A' ≤ character ∧ character ≤ 'F' then
    some (character.toNat - 'A'.toNat + 10)
  else
    none

/-- Read four hexadecimal digits.  Four bytes count as read even when they are
no digits. -/
def readUnit (unread : List Char) : Except Fault (Nat × List Char) :=
  if Utf8.size unread < 4 then
    .error (.before .endOfText [])
  else
    match unread with
    | first :: second :: third :: fourth :: rest =>
        match hexValue? first, hexValue? second, hexValue? third, hexValue? fourth with
        | some first, some second, some third, some fourth =>
            .ok (first * 4096 + second * 256 + third * 16 + fourth, rest)
        | _, _, _, _ => .error ⟨.invalidEscape, Utf8.size unread - 4⟩
    | _ => .error ⟨.invalidEscape, Utf8.size unread - 4⟩

/-- Whether a number is the first half of a surrogate pair. -/
def isLeadingSurrogate (number : Nat) : Bool :=
  0xD800 ≤ number && number ≤ 0xDBFF

/-- Whether a number is the second half of a surrogate pair. -/
def isTrailingSurrogate (number : Nat) : Bool :=
  0xDC00 ≤ number && number ≤ 0xDFFF

/-- Read the rest of a numeric escape, behind its `u`.  A first half of a
surrogate pair must be followed by the escape of a second half. -/
def readNumericEscape (unread : List Char) : Except Fault (Char × List Char) := do
  let (number, rest) ← readUnit unread
  if isTrailingSurrogate number then
    .error (.before .loneSurrogate rest)
  else if isLeadingSurrogate number then
    match rest with
    | '\\' :: 'u' :: rest =>
        let (second, rest) ← readUnit rest
        if isTrailingSurrogate second then
          let code := 0x10000 + (number - 0xD800) * 0x400 + (second - 0xDC00)
          return (Char.ofNat code, rest)
        else
          .error (.before .loneSurrogate rest)
    | [] | ['\\'] => .error (.before .endOfText [])
    | '\\' :: rest => .error (.past .unfinishedSurrogatePair rest)
    | rest => .error (.past .unfinishedSurrogatePair rest)
  else
    return (Char.ofNat number, rest)

/-- The character that a one-letter escape stands for. -/
def simpleEscape? : Char → Option Char
  | '"' => some '"'
  | '\\' => some '\\'
  | '/' => some '/'
  | 'b' => some '\x08'
  | 'f' => some '\x0C'
  | 'n' => some '\n'
  | 'r' => some '\r'
  | 't' => some '\t'
  | _ => none

/-- Read the rest of an escape, behind its backslash. -/
def readEscape (unread : List Char) : Except Fault (Char × List Char) :=
  match unread with
  | [] => .error (.before .endOfText [])
  | 'u' :: rest => readNumericEscape rest
  | letter :: rest =>
      match simpleEscape? letter with
      | some character => .ok (character, rest)
      | none => .error (.past .invalidEscape unread)

theorem readUnit_length {unread rest : List Char} {number : Nat}
    (read : readUnit unread = .ok (number, rest)) : rest.length < unread.length := by
  unfold readUnit at read
  split at read
  · simp at read
  · split at read
    · split at read
      · simp only [Except.ok.injEq, Prod.mk.injEq] at read
        simp [← read.2]
        omega
      · simp at read
    · simp at read

theorem readNumericEscape_length {unread rest : List Char} {character : Char}
    (read : readNumericEscape unread = .ok (character, rest)) :
    rest.length < unread.length := by
  unfold readNumericEscape at read
  cases unit : readUnit unread with
  | error fault => simp [unit, bind, Except.bind] at read
  | ok result =>
      obtain ⟨number, afterUnit⟩ := result
      have shorter := readUnit_length unit
      simp only [unit, bind, Except.bind] at read
      split at read
      · simp at read
      · split at read
        · split at read
          · rename_i afterEscape
            cases second : readUnit afterEscape with
            | error fault => simp [second] at read
            | ok result =>
                have shorterYet := readUnit_length second
                simp only [second] at read
                split at read
                · simp only [pure, Except.pure, Except.ok.injEq, Prod.mk.injEq] at read
                  rw [← read.2]
                  simp only [List.length_cons] at shorter
                  omega
                · simp at read
          all_goals simp at read
        · simp only [pure, Except.pure, Except.ok.injEq, Prod.mk.injEq] at read
          rw [← read.2]
          exact shorter

theorem readEscape_length {unread rest : List Char} {character : Char}
    (read : readEscape unread = .ok (character, rest)) :
    rest.length < unread.length := by
  unfold readEscape at read
  split at read
  · simp at read
  · have := readNumericEscape_length read
    simp only [List.length_cons]
    omega
  · split at read
    · simp only [Except.ok.injEq, Prod.mk.injEq] at read
      simp [read.2]
    · simp at read

/-- Read quoted text, behind its opening quote, up to and with its closing
quote. -/
def readQuoted (unread : List Char) : Except Fault (List Char × List Char) :=
  match unread with
  | [] => .error (.before .endOfText [])
  | '"' :: rest => .ok ([], rest)
  | '\\' :: rest =>
      match escape : readEscape rest with
      | .error fault => .error fault
      | .ok (character, rest') =>
          have : rest'.length < rest.length := readEscape_length escape
          match readQuoted rest' with
          | .error fault => .error fault
          | .ok (text, rest) => .ok (character :: text, rest)
  | character :: rest =>
      if character.toNat < 0x20 then
        .error (.past .controlCharacter unread)
      else
        match readQuoted rest with
        | .error fault => .error fault
        | .ok (text, rest) => .ok (character :: text, rest)
termination_by unread.length
decreasing_by all_goals (simp_wf <;> omega)

theorem readQuoted_length {unread text rest : List Char}
    (read : readQuoted unread = .ok (text, rest)) : rest.length < unread.length := by
  fun_induction readQuoted unread generalizing text rest with
  | case1 => simp at read
  | case2 rest => simp_all
  | case3 => simp at read
  | case4 => simp at read
  | case5 rest character rest' escape shorter text' rest'' inner ih =>
      have := ih inner
      simp only [Except.ok.injEq, Prod.mk.injEq] at read
      simp only [List.length_cons, ← read.2]
      omega
  | case6 => simp at read
  | case7 => simp at read
  | case8 character rest _ _ _ text' rest'' inner ih =>
      have := ih inner
      simp only [Except.ok.injEq, Prod.mk.injEq] at read
      simp only [List.length_cons, ← read.2]
      omega

end Document
end FileConfinement
