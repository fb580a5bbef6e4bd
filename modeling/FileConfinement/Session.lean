import FileConfinement.Confinement

/-!
# Sessions

A session is a sequence of operations on one host by one process, with at most
one ruleset at hand.  Between operations the host may change; the descriptors
that are open stay open.
-/

namespace FileConfinement

/-- The state between two operations. -/
structure Session where
  host : Host
  table : DescriptorTable
  ruleset : Option Ruleset
deriving DecidableEq, Repr

namespace Session

/-- A session on a host that has nothing open. -/
def begin (host : Host) : Session := ⟨host, [], none⟩

/-- An operation. -/
inductive Step where
  /-- The host becomes another one. -/
  | changeHost (host : Host)
  /-- Replace the ruleset by an empty one for the kernel of the host. -/
  | start
  /-- Replace the ruleset by an empty one for a given kernel. -/
  | startFor (kernel : KernelVersion)
  /-- Give up the ruleset. -/
  | discard
  | allow (accessClass : AccessClass) (path : Path)
  | restrict
  | baseline (baseline : Baseline)
  | queue (queue : DirectiveQueue)
  /-- Carry out a context on the ruleset at hand. -/
  | confineWith (context : Context)
  /-- Carry out a context on a ruleset of its own. -/
  | confine (context : Context)
  /-- Ask whether the host's kernel is new enough. -/
  | askSupported
  /-- Ask for the version of the confinement interface. -/
  | askAbi
  /-- Ask for the state of confinement on the host. -/
  | askSupport
deriving DecidableEq, Repr

/-- The answer to an operation that succeeded. -/
inductive Answer where
  | done
  | version (version : KernelVersion)
  | rule (status : RuleStatus)
  | restriction (status : RestrictStatus)
  | count (count : Nat)
  | truth (value : Bool)
  | abi (version : Option Nat)
  | support (support : Support)
deriving DecidableEq, Repr

/-- Why an operation had no answer. -/
inductive Refusal where
  /-- The operation needs a ruleset and there is none. -/
  | noRuleset
  | failed (failure : Failure)
deriving DecidableEq, Repr

/-- What came of an operation, with the ruleset at hand afterwards. -/
abbrev Result := Except Refusal Answer × Option Ruleset

/-- The answer of an operation that may fail. -/
def answer {α : Type} (toAnswer : α → Answer) : Except Failure α → Except Refusal Answer
  | .ok value => .ok (toAnswer value)
  | .error failure => .error (.failed failure)

/-- Take up a new ruleset in place of the one at hand. -/
def replace (ruleset : Option Ruleset) (next : Ruleset) : Action Result := do
  if let some old := ruleset then
    old.discard
  return (.ok (.version next.kernel), some next)

def onRuleset {α : Type} (ruleset : Option Ruleset) (toAnswer : α → Answer)
    (operation : Ruleset → Action (Except Failure α × Ruleset)) : Action Result :=
  match ruleset with
  | none => return (.error .noRuleset, none)
  | some ruleset => do
      let (result, ruleset) ← operation ruleset
      return (answer toAnswer result, some ruleset)

/-- What an operation does on a host that stays as it is. -/
def act (ruleset : Option Ruleset) : Step → Action Result
  | .changeHost _ => return (.ok .done, ruleset)
  | .start => do
      match ← Ruleset.start with
      | .error failure => return (.error (.failed failure), ruleset)
      | .ok next => replace ruleset next
  | .startFor kernel => replace ruleset (.forKernel kernel)
  | .discard => do
      if let some old := ruleset then
        old.discard
      return (.ok .done, none)
  | .allow accessClass path => onRuleset ruleset .rule (Ruleset.allow accessClass path)
  | .restrict => onRuleset ruleset .restriction Ruleset.restrict
  | .baseline baseline => onRuleset ruleset (fun () => .done) baseline.apply
  | .queue queue => onRuleset ruleset .count fun ruleset => do
      let (added, ruleset) ← queue.apply ruleset
      return (.ok added, ruleset)
  | .confineWith context => onRuleset ruleset .restriction context.confineWith
  | .confine context => do
      return (answer .restriction (← context.confine), ruleset)
  | .askSupported => do
      let version ← .ask Host.kernelVersion
      return (answer (fun version => .truth version.isSupported) version, ruleset)
  | .askAbi => do
      return (.ok (.abi ((← .ask Host.abiVersion?).map UInt32.toNat)), ruleset)
  | .askSupport => do
      return (answer .support (← .ask Support.detect), ruleset)

def Step.hostAfter (host : Host) : Step → Host
  | changeHost next => next
  | _ => host

/-- What one operation leaves behind. -/
structure Outcome where
  answer : Except Refusal Answer
  session : Session
  calls : List Call
  events : List Event

def perform (session : Session) (step : Step) : Outcome :=
  let run := (act session.ruleset step).run session.host session.table
  { answer := run.value.1
    session := ⟨step.hostAfter session.host, run.table, run.value.2⟩
    calls := run.calls
    events := run.events }

def performAll (session : Session) : List Step → List Outcome
  | [] => []
  | step :: steps =>
      let outcome := session.perform step
      outcome :: outcome.session.performAll steps

def after (session : Session) (steps : List Step) : Session :=
  steps.foldl (fun session step => (session.perform step).session) session

end Session
end FileConfinement
