import FileConfinement.Context.Document

/-!
# The format of configuration documents

Which texts are configuration documents and what they say, without regard to how they are
read.  A literal spells a value; values stand between commas in a list or, behind a key and
a colon, in a map; space may stand between all words.
-/

namespace FileConfinement
namespace Document

/-- A text is nothing but space. -/
def IsSpaces (text : List Char) : Prop := ∀ character ∈ text, isSpace character = true

/-- A hexadecimal digit in either case, with its value. -/
def IsHexDigit (digit : Char) (value : Nat) : Prop :=
  value < 16 ∧ (digit = Nat.digitChar value ∨ digit = (Nat.digitChar value).toUpper)

instance (digit : Char) (value : Nat) : Decidable (IsHexDigit digit value) :=
  inferInstanceAs (Decidable (_ ∧ _))

/-- Four hexadecimal digits, with the number they make up. -/
def SpellsUnit (literal : List Char) (number : Nat) : Prop :=
  ∃ first second third fourth a b c d, literal = [first, second, third, fourth] ∧
    IsHexDigit first a ∧ IsHexDigit second b ∧ IsHexDigit third c ∧ IsHexDigit fourth d ∧
    number = ((a * 16 + b) * 16 + c) * 16 + d

/-- The letters behind a backslash that stand for one character, with that character. -/
def letterEscapes : List (Char × Char) :=
  [('"', '"'), ('\\', '\\'), ('/', '/'), ('b', '\x08'), ('f', '\x0C'), ('n', '\n'),
    ('r', '\r'), ('t', '\t')]

/-- How a character may be spelled between quotes.  Surrogates are spelled in pairs. -/
inductive SpellsChar : List Char → Char → Prop
  | itself {character : Char} (visible : 0x20 ≤ character.toNat) (unquoted : character ≠ '"')
      (unescaped : character ≠ '\\') : SpellsChar [character] character
  | letter {letter character : Char} (listed : (letter, character) ∈ letterEscapes) :
      SpellsChar ['\\', letter] character
  | unit {digits : List Char} {number : Nat} (spells : SpellsUnit digits number)
      (whole : ¬ (0xD800 ≤ number ∧ number ≤ 0xDFFF)) :
      SpellsChar ('\\' :: 'u' :: digits) (Char.ofNat number)
  | pair {digits digits' : List Char} {high low : Nat} (spells : SpellsUnit digits high)
      (spells' : SpellsUnit digits' low) (isHigh : 0xD800 ≤ high ∧ high ≤ 0xDBFF)
      (isLow : 0xDC00 ≤ low ∧ low ≤ 0xDFFF) :
      SpellsChar ('\\' :: 'u' :: digits ++ '\\' :: 'u' :: digits')
        (Char.ofNat (0x10000 + (high - 0xD800) * 0x400 + (low - 0xDC00)))

/-- How a text may be spelled between quotes: character by character. -/
inductive SpellsChars : List Char → List Char → Prop
  | nil : SpellsChars [] []
  | cons {literal more : List Char} {character : Char} {text : List Char}
      (spells : SpellsChar literal character) (others : SpellsChars more text) :
      SpellsChars (literal ++ more) (character :: text)

/-- How a text may be spelled, with its quotes. -/
def SpellsText (literal text : List Char) : Prop :=
  ∃ inner, literal = '"' :: inner ++ ['"'] ∧ SpellsChars inner text

def SpellsBoolean (literal : List Char) (value : Bool) : Prop :=
  literal = (if value then "true" else "false").toList

/-- A path is spelled as its text. -/
def SpellsPath (literal : List Char) (path : Path) : Prop :=
  ∃ text, SpellsText literal text ∧ path = .ofText text

/-- A user identity is spelled as an integer without sign, fraction and exponent, and
without leading zeros. -/
def SpellsUserId (literal : List Char) (uid : UInt32) : Prop :=
  literal = Nat.toDigits 10 uid.toNat

/-- A value that may be missing is spelled as `null` then. -/
def SpellsOptional {α : Type} (spells : List Char → α → Prop) (literal : List Char) :
    Option α → Prop
  | none => literal = "null".toList
  | some value => spells literal value

/-- A directive is spelled as a text that is accepted as a directive line. -/
def SpellsDirective (literal : List Char) (directive : Directive) : Prop :=
  ∃ line, SpellsText literal line ∧ Directive.ofLine line = .ok directive

/-- What stands in front of an item: a comma unless it is the first one, and space. -/
def Separates (first : Bool) (separator : List Char) : Prop :=
  if first then
    IsSpaces separator
  else
    ∃ before behind, separator = before ++ ',' :: behind ∧ IsSpaces before ∧ IsSpaces behind

/-- What stands between brackets: items between commas, and space. -/
inductive Items {α : Type} (spells : List Char → α → Prop) :
    (first : Bool) → List Char → List α → Prop
  | done {first : Bool} {space : List Char} (spaces : IsSpaces space) : Items spells first space []
  | item {first : Bool} {separator literal rest : List Char} {value : α} {values : List α}
      (separates : Separates first separator) (spelled : spells literal value)
      (others : Items spells false rest values) :
      Items spells first (separator ++ literal ++ rest) (value :: values)

def SpellsQueue (literal : List Char) (queue : DirectiveQueue) : Prop :=
  ∃ inner, literal = '[' :: inner ++ [']'] ∧ Items SpellsDirective true inner queue

/-- What a field of a context holds. -/
@[reducible] def Field.Value : Field → Type
  | .baseline => Bool
  | .home => Option Path
  | .uid => Option UInt32
  | .runtimeDirectory => Path
  | .rules => DirectiveQueue

/-- A field of a context with a value for it. -/
structure Entry where
  field : Field
  value : field.Value

/-- How the value of a field may be spelled. -/
def SpellsValue : (field : Field) → List Char → field.Value → Prop
  | .baseline => SpellsBoolean
  | .home => SpellsOptional SpellsPath
  | .uid => SpellsOptional SpellsUserId
  | .runtimeDirectory => SpellsPath
  | .rules => SpellsQueue

def SpellsEntry (literal : List Char) (entry : Entry) : Prop :=
  SpellsValue entry.field literal entry.value

/-- How a field may be spelled as a member of a map: its key as any spelling of its name. -/
def SpellsMember (literal : List Char) (entry : Entry) : Prop :=
  ∃ key before behind value, literal = key ++ before ++ ':' :: (behind ++ value) ∧
    SpellsText key entry.field.key.toList ∧ IsSpaces before ∧ IsSpaces behind ∧
    SpellsEntry value entry

/-- A document that is a map of fields, in any order and each at most once. -/
def IsMap (text : List Char) (entries : List Entry) : Prop :=
  (∃ before inner behind, text = before ++ '{' :: (inner ++ '}' :: behind) ∧ IsSpaces before ∧
    IsSpaces behind ∧ Items SpellsMember true inner entries) ∧
  (entries.map Entry.field).Nodup

/-- A document that is a list of values for the first fields in their order. -/
def IsList (text : List Char) (entries : List Entry) : Prop :=
  (∃ before inner behind, text = before ++ '[' :: (inner ++ ']' :: behind) ∧ IsSpaces before ∧
    IsSpaces behind ∧ Items SpellsEntry true inner entries) ∧
  entries.map Entry.field <+: Field.all

end Document

namespace Context

open Document

/-- The value of a field in a context. -/
def value (context : Context) : (field : Field) → field.Value
  | .baseline => context.baseline
  | .home => context.home
  | .uid => context.uid
  | .runtimeDirectory => context.runtimeDirectory
  | .rules => context.rules

/-- A context has the values that are given, and the default values everywhere else. -/
structure Consists (context : Context) (entries : List Entry) : Prop where
  given : ∀ entry ∈ entries, context.value entry.field = entry.value
  others : ∀ field, field ∉ entries.map Entry.field → context.value field = default.value field

end Context
end FileConfinement
