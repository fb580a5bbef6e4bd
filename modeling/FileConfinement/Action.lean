import FileConfinement.Call
import FileConfinement.Event
import FileConfinement.Host

/-!
# Actions on a host

An action asks a host, makes system calls on it and reports events.  It takes the
host and the descriptors that are open before it and answers, beside its value,
the descriptors that are open after it and the calls and events in order.  Calls
and events are only collected: no action can see those of an earlier one.
-/

namespace FileConfinement

/-- What an action leaves behind. -/
structure Run (α : Type) where
  value : α
  table : DescriptorTable
  calls : List Call
  events : List Event

/-- A computation on a host with some open descriptors. -/
def Action (α : Type) := Host → DescriptorTable → Run α

namespace Action

def run {α : Type} (action : Action α) (host : Host) (table : DescriptorTable) : Run α :=
  action host table

/-- The action that does nothing and answers a value. -/
def pure {α : Type} (value : α) : Action α :=
  fun _ table => ⟨value, table, [], []⟩

/-- One action and then another one that depends on its value. -/
def bind {α β : Type} (first : Action α) (next : α → Action β) : Action β :=
  fun host table =>
    let before := first host table
    let after := next before.value host before.table
    ⟨after.value, after.table, before.calls ++ after.calls, before.events ++ after.events⟩

instance : Monad Action where
  pure := pure
  bind := bind

def ask {α : Type} (question : Host → α) : Action α :=
  fun host table => ⟨question host, table, [], []⟩

def report (event : Event) : Action Unit :=
  fun _ table => ⟨(), table, [], [event]⟩

section Run

variable {α β : Type} (host : Host) (table : DescriptorTable)

@[simp] theorem run_pure (value : α) :
    run (Pure.pure value) host table = ⟨value, table, [], []⟩ := rfl

theorem run_bind (first : Action α) (next : α → Action β) :
    run (first >>= next) host table =
      let before := run first host table
      let after := run (next before.value) host before.table
      ⟨after.value, after.table, before.calls ++ after.calls, before.events ++ after.events⟩ :=
  rfl

@[simp] theorem value_bind (first : Action α) (next : α → Action β) :
    (run (first >>= next) host table).value =
      (run (next (run first host table).value) host (run first host table).table).value := rfl

@[simp] theorem table_bind (first : Action α) (next : α → Action β) :
    (run (first >>= next) host table).table =
      (run (next (run first host table).value) host (run first host table).table).table := rfl

@[simp] theorem calls_bind (first : Action α) (next : α → Action β) :
    (run (first >>= next) host table).calls =
      (run first host table).calls ++
        (run (next (run first host table).value) host (run first host table).table).calls := rfl

@[simp] theorem events_bind (first : Action α) (next : α → Action β) :
    (run (first >>= next) host table).events =
      (run first host table).events ++
        (run (next (run first host table).value) host (run first host table).table).events := rfl

@[simp] theorem run_ask (question : Host → α) :
    run (ask question) host table = ⟨question host, table, [], []⟩ := rfl

@[simp] theorem run_report (event : Event) :
    run (report event) host table = ⟨(), table, [], [event]⟩ := rfl

end Run

instance : LawfulMonad Action := by
  refine LawfulMonad.mk' Action ?_ ?_ ?_
  · intro _ action
    funext host table
    simp only [Functor.map, bind, Function.comp_def, pure, id, List.append_nil]
  · intro _ _ value next
    funext host table
    simp only [Bind.bind, bind, Pure.pure, pure, List.nil_append]
  · intro _ _ _ first second third
    funext host table
    simp only [Bind.bind, bind, List.append_assoc]

end Action

namespace Kernel

def createRuleset (handled : AccessMask) : Action (Reply Nat) :=
  fun host table =>
    match host.createError with
    | some errno => ⟨.refused errno, table, [.createRuleset handled (.refused errno)], []⟩
    | none =>
        let descriptor := table.lowestFree
        ⟨.granted descriptor, table.insert descriptor .ruleset,
          [.createRuleset handled (.granted descriptor)], []⟩

/-- Open a path that holds no zero byte. -/
def openPath (path : Path) : Action (Reply Nat) :=
  fun host table =>
    match host.openError? path with
    | some errno => ⟨.refused errno, table, [.openPath path (.refused errno)], []⟩
    | none =>
        let descriptor := table.lowestFree
        ⟨.granted descriptor, table.insert descriptor (.path path),
          [.openPath path (.granted descriptor)], []⟩

/-- The answer of a call that succeeds with no value. -/
def replyUnless : Option Errno → Reply Unit
  | some errno => .refused errno
  | none => .granted ()

/-- Add a rule for what lies beneath an open path. -/
def addRule (ruleset : Nat) (mask : AccessMask) (parent : Nat) : Action (Reply Unit) :=
  fun host table =>
    let reply := replyUnless ((table.path? parent).bind host.ruleError?)
    ⟨reply, table, [.addRule ruleset mask parent reply], []⟩

def close (descriptor : Nat) : Action Unit :=
  fun _ table => ⟨(), table.erase descriptor, [.close descriptor], []⟩

def giveUpPrivileges : Action (Reply Unit) :=
  fun host table =>
    let reply := replyUnless host.privilegeError
    ⟨reply, table, [.giveUpPrivileges reply], []⟩

/-- Put the rules of a ruleset in force. -/
def restrict (ruleset : Nat) : Action (Reply Unit) :=
  fun host table =>
    let reply := replyUnless host.restrictError
    ⟨reply, table, [.restrict ruleset reply], []⟩

def execute (program : String) (arguments : List String) : Action (Reply Unit) :=
  fun host table =>
    let reply := replyUnless host.executeError
    ⟨reply, table, [.execute program arguments reply], []⟩

end Kernel
end FileConfinement
