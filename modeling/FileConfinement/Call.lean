import FileConfinement.Access
import FileConfinement.Errno
import FileConfinement.Path

/-!
# System calls

The calls that a confinement makes on the host, as they are recorded, and the
table of descriptors that are open between them.
-/

namespace FileConfinement

/-- The answer to a system call. -/
inductive Reply (α : Type) where
  | granted (value : α)
  | refused (errno : Errno)
deriving DecidableEq, Repr

/-- A recorded system call with its answer. -/
inductive Call where
  /-- Create a ruleset that handles some rights; the answer is its descriptor. -/
  | createRuleset (handled : AccessMask) (reply : Reply Nat)
  /-- Open a path for its position in the file tree; the answer is a
  descriptor. -/
  | openPath (path : Path) (reply : Reply Nat)
  /-- Add a rule for what lies beneath an open path. -/
  | addRule (ruleset : Nat) (mask : AccessMask) (parent : Nat) (reply : Reply Unit)
  | close (descriptor : Nat)
  /-- Give up gaining privileges through executed programs. -/
  | giveUpPrivileges (reply : Reply Unit)
  /-- Put the rules of a ruleset in force. -/
  | restrict (ruleset : Nat) (reply : Reply Unit)
  /-- Execute a program in place of this one. -/
  | execute (program : String) (arguments : List String) (reply : Reply Unit)
deriving DecidableEq, Repr

/-- What a descriptor was opened on. -/
inductive Opened where
  | ruleset
  | path (path : Path)
deriving DecidableEq, Repr

/-- The open descriptors with what they were opened on. -/
abbrev DescriptorTable := List (Nat × Opened)

namespace DescriptorTable

/-- The least number that a descriptor may have. -/
def firstDescriptor : Nat := 100

/-- The least descriptor that is not open. -/
def lowestFree (table : DescriptorTable) : Nat :=
  let candidates := List.range' firstDescriptor (table.length + 1)
  (candidates.find? fun descriptor => descriptor ∉ table.map Prod.fst).getD firstDescriptor

def insert (table : DescriptorTable) (descriptor : Nat) (opened : Opened) : DescriptorTable :=
  (descriptor, opened) :: table

def erase (table : DescriptorTable) (descriptor : Nat) : DescriptorTable :=
  table.filter fun entry => entry.1 ≠ descriptor

/-- The path that a descriptor was opened on. -/
def path? (table : DescriptorTable) (descriptor : Nat) : Option Path :=
  match table.lookup descriptor with
  | some (.path path) => some path
  | _ => none

end DescriptorTable
end FileConfinement
