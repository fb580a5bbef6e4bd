import FileConfinement.Directive
import FileConfinement.Number.Shortest
import FileConfinement.Text.Quoted

/-!
# Faults of a configuration document

Why a text is no configuration, and where.  A place in the text is kept as the
number of bytes that lie behind it; from that the line and the column, both in
bytes, are counted once the whole text is known.
-/

namespace FileConfinement
namespace Document

/-- The members of a context, in the order in which they are written. -/
inductive Field where
  | baseline
  | home
  | uid
  | runtimeDirectory
  | rules
deriving DecidableEq, Repr

namespace Field

def all : List Field := [baseline, home, uid, runtimeDirectory, rules]

def key : Field → String
  | baseline => "baseline"
  | home => "home"
  | uid => "uid"
  | runtimeDirectory => "runtime_dir"
  | rules => "rules"

def ofKey? (key : List Char) : Option Field :=
  all.find? fun field => field.key.toList = key

theorem mem_all (field : Field) : field ∈ all := by
  cases field <;> decide

@[simp] theorem ofKey?_key (field : Field) : ofKey? field.key.toList = some field := by
  cases field <;> decide

end Field

/-- What was met where something else belongs. -/
inductive Found where
  | null
  | boolean (value : Bool)
  | integer (value : Int)
  | float (negative : Bool) (magnitude : Number.Binary64)
  | text (value : List Char)
  | list
  | map
deriving DecidableEq, Repr

def Found.message : Found → String
  | null => "null"
  | boolean value => s!"boolean `{value}`"
  | integer value => s!"integer `{value}`"
  | float negative magnitude =>
      let shown := String.ofList (magnitude.text negative)
      s!"floating point `{shown}`"
  | text value =>
      let shown := String.ofList (Text.quote value)
      s!"string {shown}"
  | list => "sequence"
  | map => "map"

/-- What belongs at a place. -/
inductive Expected where
  | context
  | boolean
  | path
  | userId
  | list
  | text
deriving DecidableEq, Repr

/-- The name of what belongs at a place. -/
def Expected.message : Expected → String
  | context => "struct SecurityContext"
  | boolean => "a boolean"
  | path => "path string"
  | userId => "u32"
  | list => "a sequence"
  | text => "a string"

/-- Why a text is no configuration. -/
inductive Reason where
  | endOfValue
  | endOfList
  | endOfObject
  | endOfText
  | expectedColon
  | expectedListComma
  | expectedObjectComma
  | expectedLiteral
  | expectedValue
  | expectedKey
  | trailingComma
  | trailingCharacters
  | invalidNumber
  | numberOutOfRange
  | invalidEscape
  | unfinishedSurrogatePair
  | loneSurrogate
  | controlCharacter
  | wrongType (found : Found) (expected : Expected)
  | userIdOutOfRange (value : Int)
  | unknownField (key : List Char)
  | duplicateField (field : Field)
  | directive (fault : DirectiveFault)
deriving DecidableEq, Repr

/-- The fields by key, as they are listed in a message. -/
def Field.listing : String :=
  String.intercalate ", " (Field.all.map fun field => s!"`{field.key}`")

def Reason.message : Reason → String
  | endOfValue => "EOF while parsing a value"
  | endOfList => "EOF while parsing a list"
  | endOfObject => "EOF while parsing an object"
  | endOfText => "EOF while parsing a string"
  | expectedColon => "expected `:`"
  | expectedListComma => "expected `,` or `]`"
  | expectedObjectComma => "expected `,` or `\x7d`"
  | expectedLiteral => "expected ident"
  | expectedValue => "expected value"
  | expectedKey => "key must be a string"
  | trailingComma => "trailing comma"
  | trailingCharacters => "trailing characters"
  | invalidNumber => "invalid number"
  | numberOutOfRange => "number out of range"
  | invalidEscape => "invalid escape"
  | unfinishedSurrogatePair => "unexpected end of hex escape"
  | loneSurrogate => "lone leading surrogate in hex escape"
  | controlCharacter => "control character (\\u0000-\\u001F) found while parsing a string"
  | wrongType found expected =>
      s!"invalid type: {found.message}, expected {expected.message}"
  | userIdOutOfRange value =>
      s!"invalid value: integer `{value}`, expected {Expected.userId.message}"
  | unknownField key =>
      let shown := String.ofList key
      s!"unknown field `{shown}`, expected one of {Field.listing}"
  | duplicateField field => s!"duplicate field `{field.key}`"
  | directive fault => s!"Invalid configuration: {fault.message}"

/-- A fault at a place in a text. -/
structure Fault where
  reason : Reason
  /-- How many bytes of the text lie behind the place. -/
  remaining : Nat
deriving DecidableEq, Repr

namespace Fault

/-- A fault at the place where the unread text begins. -/
def before (reason : Reason) (unread : List Char) : Fault :=
  ⟨reason, Utf8.size unread⟩

/-- A fault one byte behind the place where the unread text begins, or at the
end of the text when nothing is unread. -/
def past (reason : Reason) (unread : List Char) : Fault :=
  ⟨reason, Utf8.size unread - 1⟩

end Fault

/-- A place in a text, with lines counted from one and columns in bytes from the
start of the line. -/
structure Position where
  line : Nat
  column : Nat
deriving DecidableEq, Repr

/-- The position behind some bytes. -/
def Position.after (bytes : List UInt8) : Position where
  line := 1 + bytes.count 10
  column := (bytes.reverse.takeWhile (· ≠ 10)).length

/-- Why and where a text is no configuration. -/
structure Error where
  reason : Reason
  position : Position
deriving DecidableEq, Repr

/-- A fault with its position in the whole text. -/
def Fault.locate (fault : Fault) (text : List Char) : Error where
  reason := fault.reason
  position :=
    let bytes := Utf8.encode text
    Position.after (bytes.take (bytes.length - fault.remaining))

/-- What is wrong with a text, and where. -/
def Error.message (error : Error) : String :=
  s!"{error.reason.message} at line {error.position.line} column {error.position.column}"

end Document
end FileConfinement
