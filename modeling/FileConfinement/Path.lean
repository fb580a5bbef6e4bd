import FileConfinement.Text.Utf8

/-!
# Paths

A path is any byte string.  Lookups in a file system compare paths byte for
byte; the looser relation `SameComponents` ignores repeated and trailing slashes
and the dots that name no step of their own.
-/

namespace FileConfinement

/-- A file-system path, as the bytes that spell it. -/
structure Path where
  bytes : List UInt8
deriving DecidableEq, Repr

namespace Path

/-- The byte that separates the components of a path. -/
def slash : UInt8 := 47

/-- The bytes of the component that stands for the current directory. -/
def dot : List UInt8 := [46]

def ofText (text : List Char) : Path := ⟨Utf8.encode text⟩

def ofString (string : String) : Path := ofText string.toList

/-- The text that spells a path, if its bytes are well-formed. -/
def text? (path : Path) : Option (List Char) := Utf8.decode? path.bytes

def display (path : Path) : String := String.ofList (Utf8.display path.bytes)

/-- Whether a path holds the byte zero, which no system call accepts. -/
def hasNul (path : Path) : Bool := path.bytes.contains 0

/-- The runs of bytes between slashes; an empty byte string is one empty run. -/
def segments : List UInt8 → List (List UInt8)
  | [] => [[]]
  | byte :: rest =>
      if byte = slash then
        [] :: segments rest
      else
        match segments rest with
        | segment :: others => (byte :: segment) :: others
        | [] => [[byte]]

/-- What a path names: where it starts and the steps from there. -/
structure Components where
  /-- The path starts at the root. -/
  absolute : Bool
  /-- The path starts with an explicit current directory. -/
  leadingDot : Bool
  /-- The names of the steps, parent steps included. -/
  steps : List (List UInt8)
deriving DecidableEq, Repr

/-- The components of a path.  Empty segments name nothing, and so does a dot,
except at the very start of a relative path. -/
def components (path : Path) : Components where
  absolute := path.bytes.head? = some slash
  leadingDot := (segments path.bytes).head? = some dot
  steps := (segments path.bytes).filter fun segment => segment ≠ [] ∧ segment ≠ dot

/-- Two paths that consist of the same components. -/
def SameComponents (first second : Path) : Prop :=
  first.components = second.components

instance (first second : Path) : Decidable (SameComponents first second) :=
  inferInstanceAs (Decidable (_ = _))

theorem SameComponents.refl (path : Path) : SameComponents path path := rfl

theorem SameComponents.symm {first second : Path}
    (same : SameComponents first second) : SameComponents second first :=
  Eq.symm same

theorem SameComponents.trans {first second third : Path}
    (same : SameComponents first second) (next : SameComponents second third) :
    SameComponents first third :=
  Eq.trans same next

end Path
end FileConfinement
