import FileConfinement.Context.Basic
import FileConfinement.Document.Fault
import FileConfinement.Document.Layout

/-!
# Writing contexts

A context is written as a map with every field in its order; absent settings are
written as `null`.  A home or runtime directory that is no text cannot be
written.
-/

namespace FileConfinement
namespace Context

open Document

/-- A written setting, or `null`. -/
def writeOptional (value : Option (List Char)) : List Char :=
  value.getD ['n', 'u', 'l', 'l']

def writeBoolean : Bool → List Char
  | true => ['t', 'r', 'u', 'e']
  | false => ['f', 'a', 'l', 's', 'e']

def writePath? (path : Path) : Option (List Char) :=
  path.text?.map writeText

/-- The written home directory, if there is none or it is text. -/
def writeHome? : Option Path → Option (List Char)
  | none => some (writeOptional none)
  | some home => writePath? home

/-- A written context, if its home and runtime directory are text. -/
def write? (layout : Layout) (context : Context) : Option (List Char) := do
  let home ← writeHome? context.home
  let runtimeDirectory ← writePath? context.runtimeDirectory
  return writeMap layout
    [(Field.baseline.key.toList, writeBoolean context.baseline),
      (Field.home.key.toList, home),
      (Field.uid.key.toList,
        writeOptional (context.uid.map fun uid => Nat.toDigits 10 uid.toNat)),
      (Field.runtimeDirectory.key.toList, runtimeDirectory),
      (Field.rules.key.toList, writeQueue layout context.rules)]

/-- A context as a document, if it can be written. -/
def document? (layout : Layout) (context : Context) : Option String :=
  (context.write? layout).map String.ofList

/-- What is said of a context that cannot be written. -/
def unwritableMessage : String := "path contains invalid UTF-8 characters"

end Context
end FileConfinement
