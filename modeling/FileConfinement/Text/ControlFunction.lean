import FileConfinement.Text.Utf8

/-!
# Text without control functions

Text that is not meant for a terminal is written without the functions that a
terminal would carry out: control characters other than tabs and line ends, and
the sequences and strings that an escape character introduces.

A tab or line end inside an escape or control sequence is shown and suspends the
sequence, so that the text behind it is shown as well.  The next control character
resumes the sequence, unless a character beyond ASCII has ended it before.
-/

namespace FileConfinement
namespace Text

/-- What has been read of a control function that is not complete. -/
inductive ControlFunction where
  /-- The escape character. -/
  | escape
  /-- The escape character and intermediate characters. -/
  | escapeIntermediate
  /-- The introducer of a control sequence, and what may stand before its final
  character. -/
  | sequence
  /-- The introducer of a device control string. -/
  | device
  /-- A device control string up to its parameters. -/
  | deviceParameter
  /-- A device control string up to its intermediate characters. -/
  | deviceIntermediate
  /-- A control string whose content is ignored up to its terminator. -/
  | controlString
  /-- An operating system command, which the bell character ends too. -/
  | systemCommand
deriving DecidableEq, Repr

namespace ControlFunction

/-- Whether a character is an intermediate character of a control function. -/
def isIntermediate (character : Char) : Bool :=
  ' ' ≤ character && character ≤ '/'

/-- Whether a character is a parameter of a control function. -/
def isParameter (character : Char) : Bool :=
  '0' ≤ character && character ≤ '?'

/-- The function behind an escape character and a printable ASCII character. -/
def introduced (character : Char) : Option ControlFunction :=
  if isIntermediate character then some escapeIntermediate
  else if character = '[' then some sequence
  else if character = ']' then some systemCommand
  else if character = 'P' then some device
  else if character = 'X' ∨ character = '^' ∨ character = '_' then some controlString
  else none

/-- The function behind one more printable ASCII character; the answer is `none`
when the character completes it. -/
def afterGraphic (function : ControlFunction) (character : Char) : Option ControlFunction :=
  match function with
  | escape => introduced character
  | escapeIntermediate => if isIntermediate character then some escapeIntermediate else none
  | sequence =>
      if isIntermediate character || isParameter character then some sequence else none
  | device =>
      if isIntermediate character then some deviceIntermediate
      else if isParameter character then some deviceParameter
      else some controlString
  | deviceParameter =>
      if isIntermediate character then some deviceIntermediate
      else if isParameter character && character ≤ ';' then some deviceParameter
      else some controlString
  | deviceIntermediate =>
      if isIntermediate character then some deviceIntermediate else some controlString
  | controlString => some controlString
  | systemCommand => some systemCommand

/-- The byte that terminates a control string wherever it occurs. -/
def terminator : UInt8 := 0x9C

/-- The function behind one more character. -/
def after (function : ControlFunction) (character : Char) : Option ControlFunction :=
  if ' ' ≤ character ∧ character ≤ '~' then
    function.afterGraphic character
  else if function = systemCommand ∧ character = '\x07' then
    none
  else if function = controlString ∧ terminator ∈ Utf8.encodeChar character then
    none
  else
    some function

/-- Whether a tab or line end suspends a function; in a control string it belongs
to the content. -/
def isSuspendable : ControlFunction → Bool
  | escape | escapeIntermediate | sequence => true
  | _ => false

end ControlFunction

/-- Whether a character is a tab or ends a line or page. -/
def isLayout (character : Char) : Bool :=
  character = '\t' || character = '\n' || character = '\x0C' || character = '\r'

/-- Whether a character is shown in text outside of control functions. -/
def isShown (character : Char) : Bool :=
  isLayout character || (' ' ≤ character && character ≠ '\x7F')

def escapeCharacter : Char := '\x1B'

/-- Whether a character breaks off any control function. -/
def isCancel (character : Char) : Bool :=
  character = '\x18' || character = '\x1A'

/-- Where the reading of a text stands. -/
inductive ControlReading where
  /-- In text that is shown, possibly with a suspended function. -/
  | text (suspended : Option ControlFunction)
  | inside (function : ControlFunction)
deriving DecidableEq, Repr

namespace ControlReading

/-- The reading inside a function, or in text if there is none. -/
def resume : Option ControlFunction → ControlReading
  | some function => inside function
  | none => text none

/-- The reading behind a character that introduces or breaks off no function, and
whether the character is shown. -/
def readCharacter (reading : ControlReading) (character : Char) : ControlReading × Bool :=
  match reading with
  | text suspended =>
      if isShown character then
        (text (if character < '\x80' then suspended else none), true)
      else
        (resume suspended, false)
  | inside function =>
      if isLayout character && function.isSuspendable then
        (text (some function), true)
      else
        (resume (function.after character), false)

/-- The reading behind a character, and whether the character is shown. -/
def read (reading : ControlReading) (character : Char) : ControlReading × Bool :=
  if character = escapeCharacter then (inside .escape, false)
  else if isCancel character then (text none, false)
  else reading.readCharacter character

/-- The characters of a text that are shown. -/
def shown : ControlReading → List Char → List Char
  | _, [] => []
  | reading, character :: rest =>
      let (next, visible) := reading.read character
      if visible then character :: next.shown rest else next.shown rest

end ControlReading

def withoutControls (text : List Char) : List Char :=
  (ControlReading.text none).shown text

theorem ControlReading.read_of_isShown {character : Char} (visible : isShown character = true) :
    (ControlReading.text none).read character = (.text none, true) := by
  have notEscape : character ≠ escapeCharacter := by
    rintro rfl
    exact absurd visible (by decide)
  have notCancel : isCancel character = false := by
    rw [isCancel, Bool.or_eq_false_iff, decide_eq_false_iff_not, decide_eq_false_iff_not]
    constructor <;> rintro rfl <;> exact absurd visible (by decide)
  simp [ControlReading.read, ControlReading.readCharacter, notEscape, notCancel, visible]

/-- A text without control characters stays as it is. -/
theorem withoutControls_of_isShown {text : List Char}
    (visible : ∀ character ∈ text, isShown character = true) :
    withoutControls text = text := by
  induction text with
  | nil => rfl
  | cons character rest ih =>
      have first := ControlReading.read_of_isShown (visible character List.mem_cons_self)
      have others := ih fun other member => visible other (List.mem_cons_of_mem character member)
      rw [withoutControls, ControlReading.shown, first]
      exact congrArg (character :: ·) others

end Text
end FileConfinement
