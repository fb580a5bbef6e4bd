import FileConfinement.Text.Printable

/-!
# Quoted text in messages

A text inside a message is put between double quotes, with a backslash before
quotes and backslashes, short escapes for the common control characters, and
`\u` with a hexadecimal code point in braces for every other character that
does not stand by itself.
-/

namespace FileConfinement
namespace Text

/-- The hexadecimal digits of a number, in lower case and without leading
zeros. -/
def hexDigits (number : Nat) : List Char :=
  Nat.toDigits 16 number

def quoteChar (character : Char) : List Char :=
  if character = '\x00' then ['\\', '0']
  else if character = '\t' then ['\\', 't']
  else if character = '\n' then ['\\', 'n']
  else if character = '\r' then ['\\', 'r']
  else if character = '"' then ['\\', '"']
  else if character = '\\' then ['\\', '\\']
  else if isPrintable character then [character]
  else ['\\', 'u', '\x7b'] ++ hexDigits character.toNat ++ ['\x7d']

def quote (text : List Char) : List Char :=
  '"' :: text.flatMap quoteChar ++ ['"']

/-- Several quoted texts between square brackets, separated by commas. -/
def quoteList (texts : List (List Char)) : List Char :=
  '[' :: List.intercalate [',', ' '] (texts.map quote) ++ [']']

end Text
end FileConfinement
