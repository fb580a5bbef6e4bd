import FileConfinement.Access
import FileConfinement.Path
import FileConfinement.Text.Blank

/-!
# Directives

A directive asks for the rights of one class beneath one path.  It is written as
a line with the keyword of the class, blanks, and the path; blanks at the ends of
the line do not count, and the path may hold blanks of its own.
-/

namespace FileConfinement

/-- A request for the rights of a class beneath a path. -/
structure Directive where
  accessClass : AccessClass
  path : Path
deriving DecidableEq, Repr

/-- Directives in the order in which they were loaded. -/
abbrev DirectiveQueue := List Directive

/-- Why a line is no directive. -/
inductive DirectiveFault where
  /-- The line, given without the blanks at its ends, is a single word. -/
  | missingPath (line : List Char)
  /-- The first word of the line is the keyword of no class. -/
  | unknownKeyword (word : List Char)
deriving DecidableEq, Repr

def DirectiveFault.message : DirectiveFault → String
  | missingPath line =>
      let shown := String.ofList line
      s!"missing path in '{shown}'"
  | unknownKeyword word =>
      let shown := String.ofList word
      s!"unknown Landlock directive '{shown}'"

namespace Directive

def ofLine (line : List Char) : Except DirectiveFault Directive :=
  let trimmed := Text.trim line
  let isWord (character : Char) : Bool := !Text.isBlank character
  let word := trimmed.takeWhile isWord
  match trimmed.dropWhile isWord with
  | [] => .error (.missingPath trimmed)
  | _ :: rest =>
      match AccessClass.ofKeyword? (String.ofList word) with
      | none => .error (.unknownKeyword word)
      | some accessClass =>
          let path := Text.trim rest
          if path.isEmpty then
            .error (.missingPath trimmed)
          else
            .ok ⟨accessClass, Path.ofText path⟩

def ofString (line : String) : Except DirectiveFault Directive :=
  ofLine line.toList

/-- The line that writes a directive; the ill-formed bytes of a path do not
survive it. -/
def display (directive : Directive) : String :=
  s!"{directive.accessClass.keyword} {directive.path.display}"

/-- Two directives that ask for the same class beneath paths of the same
components. -/
def Equivalent (first second : Directive) : Prop :=
  first.accessClass = second.accessClass ∧ first.path.SameComponents second.path

instance (first second : Directive) : Decidable (Equivalent first second) :=
  inferInstanceAs (Decidable (_ ∧ _))

end Directive

namespace DirectiveQueue

/-- Two queues whose directives are equivalent, one by one and in order. -/
def Equivalent : DirectiveQueue → DirectiveQueue → Prop
  | [], [] => True
  | first :: firsts, second :: seconds =>
      first.Equivalent second ∧ Equivalent firsts seconds
  | _, _ => False

instance Equivalent.decidable : (first second : DirectiveQueue) →
    Decidable (Equivalent first second)
  | [], [] => isTrue trivial
  | [], _ :: _ => isFalse id
  | _ :: _, [] => isFalse id
  | first :: firsts, second :: seconds =>
      @instDecidableAnd (first.Equivalent second) (Equivalent firsts seconds)
        inferInstance (Equivalent.decidable firsts seconds)

end DirectiveQueue
end FileConfinement
