import FileConfinement.Document.NumberLiteral

/-!
# Values of a configuration document

The scalars that a configuration can hold and lists of directives.  A value of
another kind is read up to its end before it is refused, so that a malformed
value is reported as such; lists and maps in the wrong place are refused
unread.
-/

namespace FileConfinement
namespace Document

/-- The fault of a place where an expected value does not begin. -/
def wrongValue (expected : Expected) (unread : List Char) : Fault :=
  let mismatch (found : Found) (rest : List Char) : Fault :=
    .before (.wrongType found expected) rest
  let afterLiteral (literal : List Char) (found : Found) (rest : List Char) : Fault :=
    match readLiteral literal rest with
    | .error fault => fault
    | .ok rest => mismatch found rest
  let afterNumber (read : Except Fault (Found × List Char)) : Fault :=
    match read with
    | .error fault => fault
    | .ok (found, rest) => mismatch found rest
  match unread with
  | [] => .before .endOfValue []
  | 'n' :: rest => afterLiteral ['u', 'l', 'l'] .null rest
  | 't' :: rest => afterLiteral ['r', 'u', 'e'] (.boolean true) rest
  | 'f' :: rest => afterLiteral ['a', 'l', 's', 'e'] (.boolean false) rest
  | '"' :: rest =>
      match readQuoted rest with
      | .error fault => fault
      | .ok (text, rest) => mismatch (.text text) rest
  | '[' :: _ => mismatch .list unread
  | '{' :: _ => mismatch .map unread
  | '-' :: rest => afterNumber (readNumber true rest)
  | first :: _ =>
      if first.isDigit then
        afterNumber (readNumber false unread)
      else
        .past .expectedValue unread

def readBoolean (unread : List Char) : Except Fault (Bool × List Char) :=
  match skipSpace unread with
  | 't' :: rest => (readLiteral ['r', 'u', 'e'] rest).map (true, ·)
  | 'f' :: rest => (readLiteral ['a', 'l', 's', 'e'] rest).map (false, ·)
  | unread => .error (wrongValue .boolean unread)

def readText (expected : Expected) (unread : List Char) :
    Except Fault (List Char × List Char) :=
  match skipSpace unread with
  | '"' :: rest => readQuoted rest
  | unread => .error (wrongValue expected unread)

def readPath (unread : List Char) : Except Fault (Path × List Char) :=
  (readText .path unread).map fun (text, rest) => (Path.ofText text, rest)

/-- The user identity that a number stands for. -/
def userIdOf (found : Found) (rest : List Char) : Except Fault (UInt32 × List Char) :=
  match found with
  | .integer value =>
      if 0 ≤ value ∧ value < UInt32.size then
        .ok (UInt32.ofNat value.toNat, rest)
      else
        .error (.before (.userIdOutOfRange value) rest)
  | found => .error (.before (.wrongType found .userId) rest)

/-- Read a user identity, a whole number of 32 bits. -/
def readUserId (unread : List Char) : Except Fault (UInt32 × List Char) :=
  match skipSpace unread with
  | [] => .error (wrongValue .userId [])
  | '-' :: rest => do
      let (found, rest) ← readNumber true rest
      userIdOf found rest
  | first :: rest =>
      if first.isDigit then do
        let (found, rest) ← readNumber false (first :: rest)
        userIdOf found rest
      else
        .error (wrongValue .userId (first :: rest))

/-- Read `null` or else a value. -/
def readOptional {α : Type} (read : List Char → Except Fault (α × List Char))
    (unread : List Char) : Except Fault (Option α × List Char) :=
  match skipSpace unread with
  | 'n' :: rest => (readLiteral ['u', 'l', 'l'] rest).map (none, ·)
  | unread => (read unread).map fun (value, rest) => (some value, rest)

/-- Find the next element of a list, behind the comma before it unless it is the
first one; the answer is `none` in front of the closing bracket. -/
def nextElement (first : Bool) (unread : List Char) : Except Fault (Option (List Char)) :=
  match skipSpace unread with
  | [] => .error (.before .endOfList [])
  | ']' :: _ => .ok none
  | character :: rest =>
      if first then
        .ok (some (character :: rest))
      else if character = ',' then
        match skipSpace rest with
        | [] => .error (.before .endOfValue [])
        | ']' :: rest => .error (.past .trailingComma (']' :: rest))
        | rest => .ok (some rest)
      else
        .error (.past .expectedListComma (character :: rest))

def endList (unread : List Char) : Except Fault (List Char) :=
  match skipSpace unread with
  | [] => .error (.before .endOfList [])
  | ']' :: rest => .ok rest
  | ',' :: rest =>
      match skipSpace rest with
      | ']' :: rest => .error (.past .trailingComma (']' :: rest))
      | rest => .error (.past .trailingCharacters rest)
  | unread => .error (.past .trailingCharacters unread)

/-- The unread text from which a fault in an element of a list is counted: the
space behind the element is passed, and the closing bracket or the comma and the
space after it. -/
def leaveList (unread : List Char) : List Char :=
  match skipSpace unread with
  | ']' :: rest => rest
  | ',' :: rest => skipSpace rest
  | unread => unread

theorem nextElement_length {first : Bool} {unread rest : List Char}
    (next : nextElement first unread = .ok (some rest)) : rest.length ≤ unread.length := by
  have shorter := skipSpace_length unread
  unfold nextElement at next
  split at next
  · simp at next
  · simp at next
  · rename_i character behind _ skipped
    rw [skipped] at shorter
    split at next
    · simp only [Except.ok.injEq, Option.some.injEq] at next
      rw [← next]
      exact shorter
    · split at next
      · have shorterYet := skipSpace_length behind
        split at next
        · simp at next
        · simp at next
        · simp only [Except.ok.injEq, Option.some.injEq] at next
          rw [← next]
          simp only [List.length_cons] at shorter
          omega
      · simp at next

theorem readText_length {expected : Expected} {unread text rest : List Char}
    (read : readText expected unread = .ok (text, rest)) : rest.length < unread.length := by
  have shorter := skipSpace_length unread
  unfold readText at read
  split at read
  · rename_i behind skipped
    have := readQuoted_length read
    rw [skipped] at shorter
    simp only [List.length_cons] at shorter
    omega
  · simp at read

/-- Read a text that writes a directive. -/
def readDirective (unread : List Char) : Except Fault (Directive × List Char) :=
  match readText .text unread with
  | .error fault => .error fault
  | .ok (line, rest) =>
      match Directive.ofLine line with
      | .ok directive => .ok (directive, rest)
      | .error fault => .error (.before (.directive fault) (leaveList rest))

theorem readDirective_length {unread rest : List Char} {directive : Directive}
    (read : readDirective unread = .ok (directive, rest)) : rest.length < unread.length := by
  unfold readDirective at read
  split at read
  · simp at read
  · rename_i line behind text
    have := readText_length text
    split at read
    · simp only [Except.ok.injEq, Prod.mk.injEq] at read
      rw [← read.2]
      exact this
    · simp at read

def readDirectives (first : Bool) (unread : List Char) :
    Except Fault (DirectiveQueue × List Char) :=
  match next : nextElement first unread with
  | .error fault => .error fault
  | .ok none => .ok ([], unread)
  | .ok (some element) =>
      match read : readDirective element with
      | .error fault => .error fault
      | .ok (directive, rest) =>
          have : rest.length < unread.length :=
            Nat.lt_of_lt_of_le (readDirective_length read) (nextElement_length next)
          match readDirectives false rest with
          | .error fault => .error fault
          | .ok (directives, rest) => .ok (directive :: directives, rest)
termination_by unread.length

def readQueue (unread : List Char) : Except Fault (DirectiveQueue × List Char) :=
  match skipSpace unread with
  | '[' :: rest => do
      let (directives, rest) ← readDirectives true rest
      let rest ← endList rest
      return (directives, rest)
  | unread => .error (wrongValue .list unread)

/-- Read a whole document, with nothing but space behind its value. -/
def readWhole {α : Type} (read : List Char → Except Fault (α × List Char))
    (text : List Char) : Except Error α :=
  match read text with
  | .error fault => .error (fault.locate text)
  | .ok (value, rest) =>
      match skipSpace rest with
      | [] => .ok value
      | rest => .error ((Fault.past .trailingCharacters rest).locate text)

end Document

/-- Read a queue of directives from a document. -/
def DirectiveQueue.ofDocument (text : String) : Except Document.Error DirectiveQueue :=
  Document.readWhole Document.readQueue text.toList

end FileConfinement
