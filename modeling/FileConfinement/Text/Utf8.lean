/-!
# Byte strings as UTF-8

A byte string is read as a sequence of pieces: whole characters, and maximal
ill-formed runs of bytes.  A byte string is text exactly when it has no
ill-formed piece; its display shows every ill-formed piece as one replacement
character.
-/

namespace FileConfinement
namespace Utf8

def encodeChar (character : Char) : List UInt8 :=
  let code := character.toNat
  if code < 0x80 then
    [UInt8.ofNat code]
  else if code < 0x800 then
    [UInt8.ofNat (0xC0 + code / 64), UInt8.ofNat (0x80 + code % 64)]
  else if code < 0x10000 then
    [UInt8.ofNat (0xE0 + code / 4096), UInt8.ofNat (0x80 + code / 64 % 64),
      UInt8.ofNat (0x80 + code % 64)]
  else
    [UInt8.ofNat (0xF0 + code / 262144), UInt8.ofNat (0x80 + code / 4096 % 64),
      UInt8.ofNat (0x80 + code / 64 % 64), UInt8.ofNat (0x80 + code % 64)]

def encode (text : List Char) : List UInt8 :=
  text.flatMap encodeChar

def size (text : List Char) : Nat :=
  (encode text).length

@[simp] theorem encode_nil : encode [] = [] := rfl

@[simp] theorem encode_cons (character : Char) (text : List Char) :
    encode (character :: text) = encodeChar character ++ encode text := rfl

@[simp] theorem encode_append (first second : List Char) :
    encode (first ++ second) = encode first ++ encode second := by
  simp [encode]

@[simp] theorem size_nil : size [] = 0 := rfl

@[simp] theorem size_append (first second : List Char) :
    size (first ++ second) = size first + size second := by
  simp [size]

/-- One step of reading a byte string. -/
inductive Piece where
  /-- A well-formed sequence of one to four bytes. -/
  | whole (character : Char)
  /-- A maximal run of bytes that begins no well-formed sequence. -/
  | broken (bytes : List UInt8)
deriving DecidableEq, Repr

/-- How many bytes must follow a first byte; none follow a byte that is a
character by itself or that can begin no character. -/
def tailLength (first : UInt8) : Nat :=
  if 0xC2 ≤ first && first ≤ 0xDF then 1
  else if 0xE0 ≤ first && first ≤ 0xEF then 2
  else if 0xF0 ≤ first && first ≤ 0xF4 then 3
  else 0

/-- Whether a byte may continue a sequence after its second byte. -/
def isContinuation (byte : UInt8) : Bool :=
  0x80 ≤ byte && byte ≤ 0xBF

/-- Whether a second byte may follow a first byte: overlong forms, surrogates
and code points past U+10FFFF are left out. -/
def isSecond (first second : UInt8) : Bool :=
  let lowest : UInt8 := if first = 0xE0 then 0xA0 else if first = 0xF0 then 0x90 else 0x80
  let highest : UInt8 := if first = 0xED then 0x9F else if first = 0xF4 then 0x8F else 0xBF
  lowest ≤ second && second ≤ highest

/-- The longest run of following bytes that a first byte can use, at most
`count` of them. -/
def tail (first : UInt8) : (count : Nat) → List UInt8 → List UInt8
  | count + 1, second :: rest =>
      if isSecond first second then second :: (rest.take count).takeWhile isContinuation else []
  | _, _ => []

/-- The code point that a first byte and its following bytes spell. -/
def codePoint (first : UInt8) (following : List UInt8) : Nat :=
  let lead := match following.length with
    | 0 => first.toNat
    | 1 => first.toNat % 32
    | 2 => first.toNat % 16
    | _ => first.toNat % 8
  following.foldl (fun code byte => code * 64 + byte.toNat % 64) lead

/-- The bytes behind a first byte that belong to its piece. -/
def following (first : UInt8) (rest : List UInt8) : List UInt8 :=
  tail first (tailLength first) rest

/-- The piece at the head of a byte string. -/
def headPiece (first : UInt8) (rest : List UInt8) : Piece :=
  let more := following first rest
  if first < 0x80 || (0 < more.length && more.length = tailLength first) then
    Piece.whole (Char.ofNat (codePoint first more))
  else
    Piece.broken (first :: more)

/-- The pieces of a byte string behind some bytes that belong to an earlier
piece. -/
def piecesBehind : (skipped : Nat) → List UInt8 → List Piece
  | _, [] => []
  | skipped + 1, _ :: rest => piecesBehind skipped rest
  | 0, first :: rest =>
      headPiece first rest :: piecesBehind (following first rest).length rest

/-- The pieces of a byte string, in order. -/
def pieces (bytes : List UInt8) : List Piece :=
  piecesBehind 0 bytes

theorem piecesBehind_eq (skipped : Nat) (bytes : List UInt8) :
    piecesBehind skipped bytes = pieces (bytes.drop skipped) := by
  induction bytes generalizing skipped with
  | nil => cases skipped <;> rfl
  | cons first rest ih =>
      cases skipped with
      | zero => rfl
      | succ skipped => simpa [piecesBehind] using ih skipped

@[simp] theorem pieces_nil : pieces [] = [] := rfl

theorem pieces_cons (first : UInt8) (rest : List UInt8) :
    pieces (first :: rest) =
      headPiece first rest :: pieces (rest.drop (following first rest).length) := by
  rw [← piecesBehind_eq]
  rfl

/-- The character of a piece, if it is one. -/
def Piece.character? : Piece → Option Char
  | .whole character => some character
  | .broken _ => none

def Piece.display : Piece → Char
  | .whole character => character
  | .broken _ => '\uFFFD'

/-- The text that a byte string spells, if it is well formed. -/
def decode? (bytes : List UInt8) : Option (List Char) :=
  (pieces bytes).mapM Piece.character?

/-- A byte string as text for people, with one replacement character for each
ill-formed piece. -/
def display (bytes : List UInt8) : List Char :=
  (pieces bytes).map Piece.display

end Utf8
end FileConfinement
