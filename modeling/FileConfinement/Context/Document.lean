import FileConfinement.Context.Basic
import FileConfinement.Document.Value

/-!
# Contexts in documents

A context is written as a map with a key for each field, in any order, or as a
list of the fields in their order, of which trailing ones may be left out.
Fields that are left out keep their default.
-/

namespace FileConfinement
namespace Context

open Document

/-- Read the value of a field into a context. -/
def readField (field : Field) (context : Context) (unread : List Char) :
    Except Fault (Context × List Char) :=
  match field with
  | .baseline => (readBoolean unread).map fun (value, rest) =>
      ({ context with baseline := value }, rest)
  | .home => (readOptional readPath unread).map fun (value, rest) =>
      ({ context with home := value }, rest)
  | .uid => (readOptional readUserId unread).map fun (value, rest) =>
      ({ context with uid := value }, rest)
  | .runtimeDirectory => (readPath unread).map fun (value, rest) =>
      ({ context with runtimeDirectory := value }, rest)
  | .rules => (readQueue unread).map fun (value, rest) =>
      ({ context with rules := value }, rest)

/-- Find the next key of a map, behind the comma before it unless it is the
first one, and behind its opening quote; the answer is `none` in front of the
closing brace. -/
def nextKey (first : Bool) (unread : List Char) : Except Fault (Option (List Char)) :=
  match skipSpace unread with
  | [] => .error (.before .endOfObject [])
  | '}' :: _ => .ok none
  | character :: rest =>
      if first then
        if character = '"' then .ok (some rest) else .error (.past .expectedKey (character :: rest))
      else if character = ',' then
        match skipSpace rest with
        | [] => .error (.before .endOfValue [])
        | '"' :: rest => .ok (some rest)
        | '}' :: rest => .error (.past .trailingComma ('}' :: rest))
        | rest => .error (.past .expectedKey rest)
      else
        .error (.past .expectedObjectComma (character :: rest))

def readColon (unread : List Char) : Except Fault (List Char) :=
  match skipSpace unread with
  | [] => .error (.before .endOfObject [])
  | ':' :: rest => .ok rest
  | unread => .error (.past .expectedColon unread)

def endMap (unread : List Char) : Except Fault (List Char) :=
  match skipSpace unread with
  | [] => .error (.before .endOfObject [])
  | '}' :: rest => .ok rest
  | ',' :: rest => .error (.past .trailingComma (',' :: rest))
  | unread => .error (.past .trailingCharacters unread)

/-- The unread text from which a fault in a key is counted: the space behind the
key is passed, and the closing brace. -/
def leaveMap (unread : List Char) : List Char :=
  match skipSpace unread with
  | '}' :: rest => rest
  | unread => unread

/-- Read members up to a closing brace.  Each must name one of the fields that
are still missing. -/
def readMembers (missing : List Field) (first : Bool) (context : Context)
    (unread : List Char) : Except Fault (Context × List Char) :=
  match nextKey first unread with
  | .error fault => .error fault
  | .ok none => .ok (context, unread)
  | .ok (some behind) =>
      match readQuoted behind with
      | .error fault => .error fault
      | .ok (key, rest) =>
          match Field.ofKey? key with
          | none => .error (.before (.unknownField key) (leaveMap rest))
          | some field =>
              if isMissing : field ∈ missing then
                have : (missing.erase field).length < missing.length := by
                  rw [List.length_erase_of_mem isMissing]
                  exact Nat.sub_one_lt (Nat.ne_of_gt (List.length_pos_of_mem isMissing))
                match readColon rest >>= readField field context with
                | .error fault => .error fault
                | .ok (context, rest) => readMembers (missing.erase field) false context rest
              else
                .error (.before (.duplicateField field) (leaveMap rest))
termination_by missing.length

/-- Read the elements of a list into fields, in order, up to the closing bracket
or the last field. -/
def readElements : (fields : List Field) → (first : Bool) → Context → List Char →
    Except Fault (Context × List Char)
  | [], _, context, unread => .ok (context, unread)
  | field :: fields, first, context, unread =>
      match nextElement first unread with
      | .error fault => .error fault
      | .ok none => .ok (context, unread)
      | .ok (some element) =>
          match readField field context element with
          | .error fault => .error fault
          | .ok (context, rest) => readElements fields false context rest

def read (unread : List Char) : Except Fault (Context × List Char) :=
  match skipSpace unread with
  | '{' :: rest => do
      let (context, rest) ← readMembers Field.all true default rest
      let rest ← endMap rest
      return (context, rest)
  | '[' :: rest => do
      let (context, rest) ← readElements Field.all true default rest
      let rest ← endList rest
      return (context, rest)
  | unread => .error (wrongValue .context unread)

def ofDocument (text : String) : Except Document.Error Context :=
  readWhole read text.toList

end Context
end FileConfinement
