import FileConfinement.Directive

/-!
# Writing configuration documents

How text, lists and maps are written.  A layout says what space stands in front
of members and elements; without any space a document takes one line.
-/

namespace FileConfinement
namespace Document

/-- The space that a document is written with. -/
structure Layout where
  /-- In front of each member of the map. -/
  member : List Char
  /-- Behind the colon of a member. -/
  value : List Char
  /-- In front of each element of a list inside a map. -/
  element : List Char
  /-- In front of the closing bracket of such a list. -/
  listEnd : List Char
  /-- In front of the closing brace. -/
  mapEnd : List Char
deriving DecidableEq, Repr

/-- Everything on one line, without space. -/
def Layout.compact : Layout := ⟨[], [], [], [], []⟩

/-- One line for each member and each element, indented by two columns a
level. -/
def Layout.indented : Layout where
  member := ['\n', ' ', ' ']
  value := [' ']
  element := ['\n', ' ', ' ', ' ', ' ']
  listEnd := ['\n', ' ', ' ']
  mapEnd := ['\n']

/-- Lower-case hexadecimal digit of a number below sixteen. -/
def hexDigit (value : Nat) : Char :=
  Nat.digitChar value

def escapeChar (character : Char) : List Char :=
  if character = '"' then ['\\', '"']
  else if character = '\\' then ['\\', '\\']
  else if character = '\x08' then ['\\', 'b']
  else if character = '\x0C' then ['\\', 'f']
  else if character = '\n' then ['\\', 'n']
  else if character = '\r' then ['\\', 'r']
  else if character = '\t' then ['\\', 't']
  else if character.toNat < 0x20 then
    ['\\', 'u', '0', '0', hexDigit (character.toNat / 16), hexDigit (character.toNat % 16)]
  else [character]

def writeText (text : List Char) : List Char :=
  '"' :: text.flatMap escapeChar ++ ['"']

def separate (items : List (List Char)) : List Char :=
  List.intercalate [','] items

def writeList (layout : Layout) (elements : List (List Char)) : List Char :=
  if elements.isEmpty then
    ['[', ']']
  else
    '[' :: separate (elements.map (layout.element ++ ·)) ++ layout.listEnd ++ [']']

def writeMember (layout : Layout) (key value : List Char) : List Char :=
  layout.member ++ writeText key ++ [':'] ++ layout.value ++ value

def writeMap (layout : Layout) (members : List (List Char × List Char)) : List Char :=
  '{' :: separate (members.map fun (key, value) => writeMember layout key value) ++
    layout.mapEnd ++ ['}']

def writeDirective (directive : Directive) : List Char :=
  writeText directive.display.toList

def writeQueue (layout : Layout) (queue : DirectiveQueue) : List Char :=
  writeList layout (queue.map writeDirective)

end Document

def DirectiveQueue.document (queue : DirectiveQueue) : String :=
  String.ofList (Document.writeQueue .compact queue)

end FileConfinement
