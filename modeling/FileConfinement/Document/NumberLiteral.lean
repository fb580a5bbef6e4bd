import FileConfinement.Document.Lexeme

/-!
# Number literals of a configuration document

A literal without fraction and exponent is an integer as long as it fits in 64
bits; every other literal is a floating-point number.  Its significand holds as
many leading digits as fit in 64 bits: a further digit before the point scales
the number and one behind it is dropped.
-/

namespace FileConfinement
namespace Document

/-- The greatest significand. -/
def significandLimit : Nat := UInt64.size - 1

/-- The greatest exponent that is taken at its value. -/
def exponentLimit : Nat := 0x7FFFFFFF

/-- Append digits to a number as long as it stays within a limit.  The answer is
the number, how many digits it took, and the text it left. -/
def absorbDigits (limit : Nat) : (value : Nat) → List Char → Nat × Nat × List Char
  | value, [] => (value, 0, [])
  | value, character :: rest =>
      let extended := value * 10 + (character.toNat - '0'.toNat)
      if character.isDigit ∧ extended ≤ limit then
        let (final, count, rest) := absorbDigits limit extended rest
        (final, count + 1, rest)
      else
        (value, 0, character :: rest)

def startsWithDigit : List Char → Bool
  | character :: _ => character.isDigit
  | [] => false

def skipDigits (unread : List Char) : List Char :=
  unread.dropWhile Char.isDigit

/-- The number that a significand and a power of ten make up. -/
def finishFloat (negative : Bool) (significand : Nat) (scale : Int) (unread : List Char) :
    Except Fault (Found × List Char) :=
  match Number.Binary64.ofDecimal? significand scale with
  | some magnitude => .ok (.float negative magnitude, unread)
  | none => .error (.before .numberOutOfRange unread)

/-- Read an exponent, behind its letter.  A significand of zero stays zero
whatever the exponent, and so does one whose exponent is far below the least
value. -/
def readExponent (negative : Bool) (significand : Nat) (scale : Int) (unread : List Char) :
    Except Fault (Found × List Char) :=
  let (negativeExponent, unread) := match unread with
    | '+' :: rest => (false, rest)
    | '-' :: rest => (true, rest)
    | unread => (false, unread)
  if unread.isEmpty then
    .error (.before .endOfValue unread)
  else if !startsWithDigit unread then
    .error (.past .invalidNumber unread)
  else
    let (exponent, _, rest) := absorbDigits exponentLimit 0 unread
    if startsWithDigit rest then
      if significand ≠ 0 ∧ !negativeExponent then
        .error (.past .numberOutOfRange rest)
      else
        .ok (.float negative Number.Binary64.zero, skipDigits rest)
    else
      finishFloat negative significand
        (if negativeExponent then scale - exponent else scale + exponent) rest

/-- Whether a letter begins an exponent. -/
def isExponentLetter (character : Char) : Bool :=
  character = 'e' || character = 'E'

/-- Read what may follow the digits of a floating-point number. -/
def readFloatEnd (negative : Bool) (significand : Nat) (scale : Int) (unread : List Char) :
    Except Fault (Found × List Char) :=
  match unread with
  | character :: rest =>
      if isExponentLetter character then
        readExponent negative significand scale rest
      else
        finishFloat negative significand scale unread
  | [] => finishFloat negative significand scale unread

/-- Read a fraction, behind its point. -/
def readFraction (negative : Bool) (significand : Nat) (scale : Int) (unread : List Char) :
    Except Fault (Found × List Char) :=
  if unread.isEmpty then
    .error (.before .endOfValue unread)
  else if !startsWithDigit unread then
    .error (.past .invalidNumber unread)
  else
    let (significand, count, rest) := absorbDigits significandLimit significand unread
    readFloatEnd negative significand (scale - count) (skipDigits rest)

/-- The number that an integer literal stands for: zero with a minus sign, and a
negative number beyond 64 bits, are floating-point numbers. -/
def integerLiteral (negative : Bool) (value : Nat) : Found :=
  if !negative then
    .integer value
  else if 0 < value ∧ value ≤ 0x8000000000000000 then
    .integer (-value)
  else
    .float true ((Number.Binary64.ofRatio? value 1).getD Number.Binary64.zero)

/-- Read what may follow the whole part of a number that fits in 64 bits. -/
def readIntegerEnd (negative : Bool) (significand : Nat) (unread : List Char) :
    Except Fault (Found × List Char) :=
  match unread with
  | character :: rest =>
      if character = '.' then
        readFraction negative significand 0 rest
      else if isExponentLetter character then
        readExponent negative significand 0 rest
      else
        .ok (integerLiteral negative significand, unread)
  | [] => .ok (integerLiteral negative significand, unread)

/-- Read what may follow the whole part of a number whose last digits only scale
it. -/
def readLongEnd (negative : Bool) (significand : Nat) (scale : Nat) (unread : List Char) :
    Except Fault (Found × List Char) :=
  match unread with
  | character :: rest =>
      if character = '.' then
        readFraction negative significand scale rest
      else
        readFloatEnd negative significand scale unread
  | [] => readFloatEnd negative significand scale unread

/-- Read a number, behind its sign.  A leading zero stands alone. -/
def readNumber (negative : Bool) (unread : List Char) : Except Fault (Found × List Char) :=
  match unread with
  | [] => .error (.before .endOfValue unread)
  | '0' :: rest =>
      if startsWithDigit rest then
        .error (.past .invalidNumber rest)
      else
        readIntegerEnd negative 0 rest
  | first :: _ =>
      if first.isDigit then
        let (significand, _, rest) := absorbDigits significandLimit 0 unread
        if startsWithDigit rest then
          let behind := skipDigits rest
          readLongEnd negative significand (rest.length - behind.length) behind
        else
          readIntegerEnd negative significand rest
      else
        .error (.past .invalidNumber unread)

end Document
end FileConfinement
