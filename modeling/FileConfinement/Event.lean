import FileConfinement.Failure
import FileConfinement.KernelVersion
import FileConfinement.Text.Quoted

/-!
# Events

What a confinement reports while it runs.  Every event has a level of importance,
a reporter and a text; which events are shown, and how, is decided by whoever
shows them.
-/

namespace FileConfinement

/-- How important an event is. -/
inductive Level where
  | error
  | warning
  | info
  | debug
  | trace
deriving DecidableEq, Repr

namespace Level

/-- Levels from the most to the least important. -/
def rank : Level → Nat
  | error => 1
  | warning => 2
  | info => 3
  | debug => 4
  | trace => 5

def name : Level → String
  | error => "ERROR"
  | warning => "WARN"
  | info => "INFO"
  | debug => "DEBUG"
  | trace => "TRACE"

end Level

/-- A part of the library or the program that reports events. -/
inductive Reporter where
  | ruleset
  | baseline
  | queue
  | context
  | confinement
  | command
deriving DecidableEq, Repr

/-- The name that a reporter goes by where events are chosen. -/
def Reporter.name : Reporter → String
  | ruleset => "landlock_confine::ruleset"
  | baseline => "landlock_confine::policy"
  | queue => "landlock_confine::directive"
  | context => "landlock_confine::config"
  | confinement => "landlock_confine::confine"
  | command => "confine_ctl::commands"

/-- Something that a confinement reports. -/
inductive Event where
  /-- An operation on a ruleset was asked for on a kernel without support. -/
  | unsupported (reporter : Reporter)
  /-- A whole confinement was asked for on a kernel without support. -/
  | kernelTooOld (version : KernelVersion)
  | rulesetCreated (descriptor : Nat)
  | ruleAdded (mask : AccessMask) (path : Path)
  | restricted (rules : Nat)
  | homeUnresolved (failure : Failure)
  | baselineRuleSkipped (accessClass : AccessClass) (path : Path)
  | baselineRuleFailed (failure : Failure)
  | baselineApplied (rules failures : Nat)
  | baselineIncomplete (first : Failure)
  | directiveSkipped (directive : Directive)
  | directiveFailed (path : Path) (failure : Failure)
  | directivesApplied (added total : Nat)
  | restrictionFailed (failure : Failure)
  | loadingContext (path : Path)
  | contextReady (baseline : Bool) (directives : Nat)
  | confined
  | unconfined
  /-- The program is run although the restriction failed. -/
  | unconfinedByRequest (failure : Failure)
  | executing (program : String) (arguments : List String)
  | checkingSupport
deriving DecidableEq, Repr

namespace Event

def level : Event → Level
  | baselineRuleFailed _ | directiveFailed _ _ | restrictionFailed _ => .error
  | unsupported _ | kernelTooOld _ | homeUnresolved _ | baselineIncomplete _ | unconfined
  | unconfinedByRequest _ => .warning
  | restricted _ | baselineApplied _ _ | confined | executing _ _ | checkingSupport => .info
  | rulesetCreated _ | ruleAdded _ _ | baselineRuleSkipped _ _ | directiveSkipped _
  | directivesApplied _ _ | loadingContext _ | contextReady _ _ => .debug

def reporter : Event → Reporter
  | unsupported reporter => reporter
  | rulesetCreated _ | ruleAdded _ _ | restricted _ => .ruleset
  | baselineRuleSkipped _ _ | baselineRuleFailed _ | baselineApplied _ _ => .baseline
  | directiveSkipped _ | directiveFailed _ _ => .queue
  | homeUnresolved _ => .context
  | kernelTooOld _ | baselineIncomplete _ | directivesApplied _ _ | restrictionFailed _ =>
      .confinement
  | loadingContext _ | contextReady _ _ | confined | unconfined | unconfinedByRequest _
  | executing _ _ | checkingSupport => .command

/-- What people are told. -/
def message : Event → String
  | unsupported _ => "Landlock not enabled, a 6.1 or newer Linux kernel is required"
  | kernelTooOld version =>
      s!"Kernel {version.display} is too old for Landlock, continuing without filesystem confinement"
  | rulesetCreated descriptor => s!"Landlock ruleset created (fd {descriptor})"
  | ruleAdded mask path => s!"Landlock rule {mask.hexText} added for {path.display}"
  | restricted rules => s!"Landlock enforced with {rules} rules"
  | homeUnresolved failure => s!"cannot resolve the home directory: {failure.message}"
  | baselineRuleSkipped accessClass path =>
      s!"Skipping {accessClass.name} rule for missing {path.display}"
  | baselineRuleFailed failure =>
      s!"cannot set the basic Landlock filesystem: {failure.message}"
  | baselineApplied rules failures =>
      s!"Baseline Landlock policy applied ({rules} rules, {failures} failures)"
  | baselineIncomplete first =>
      s!"Baseline Landlock policy incomplete, first failure: {first.message}"
  | directiveSkipped directive => s!"Skipping '{directive.display}': path does not exist"
  | directiveFailed path failure =>
      s!"failed to add Landlock rule for {path.display}: {failure.message}"
  | directivesApplied added total => s!"{added} of {total} Landlock directives applied"
  | restrictionFailed failure => failure.message
  | loadingContext path => s!"Loading context from {path.display}"
  | contextReady baseline directives =>
      let shown := if baseline then "true" else "false"
      s!"Context: baseline={shown} directives={directives}"
  | confined => "Landlock ruleset enforced"
  | unconfined => "Running without Landlock confinement"
  | unconfinedByRequest failure =>
      s!"{failure.message}; continuing unconfined (--best-effort)"
  | executing program arguments =>
      let shown := String.ofList (Text.quoteList (arguments.map String.toList))
      s!"Executing: {program} {shown}"
  | checkingSupport => "Checking Landlock support"

end Event
end FileConfinement
