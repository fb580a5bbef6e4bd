import FileConfinement.Command.Line
import FileConfinement.Command.Presentation
import FileConfinement.Confinement

/-!
# Carrying out a command line

A request is carried out on a host as an action that says what to show and
whether it failed; only then is the answer put into text.  Nothing that is done
depends on how it is shown.
-/

namespace FileConfinement
namespace Command

/-- Why a request was not carried out. -/
inductive RequestFailure where
  | confinement (failure : Failure)
  | execution (program : String) (errno : Errno)
deriving DecidableEq, Repr

/-- What people are told. -/
def RequestFailure.message : RequestFailure → String
  | confinement failure => failure.message
  | execution program errno => s!"cannot execute {program}: {errno.message}"

/-- A baseline rule with the answer whether its path exists. -/
structure ListedRule where
  rule : ClassRule
  pathExists : Bool
deriving DecidableEq, Repr

/-- What a request has to show. -/
inductive Output where
  | nothing
  | usage
  | version
  | support (support : Support)
  | baseline (home : Option Path) (rules : List ListedRule)
deriving DecidableEq, Repr

/-- What became of a request. -/
structure Report where
  output : Output
  failure : Option RequestFailure
deriving DecidableEq, Repr

namespace Report

def success (output : Output) : Report := ⟨output, none⟩

def failed (failure : RequestFailure) : Report := ⟨.nothing, some failure⟩

end Report

/-- The context that options ask for, starting from a configuration. -/
def Settings.adjust (settings : Settings) (context : Context) : Context :=
  { context with
    baseline := context.baseline && !settings.noBaseline
    home := settings.home.or context.home
    rules := context.rules ++ settings.grants }

def loadContext (settings : Settings) : Action (Except Failure Context) := do
  match settings.config with
  | none => return .ok (settings.adjust .default)
  | some path =>
      .report (.loadingContext path)
      let loaded ← .ask fun host => Context.load host path
      return loaded.map settings.adjust

/-- Execute a program in place of this one. -/
def executeProgram (program : String) (arguments : List String) : Action Report := do
  .report (.executing program arguments)
  match ← Kernel.execute program arguments with
  | .granted () => return .success .nothing
  | .refused errno => return .failed (.execution program errno)

/-- Decide what the outcome of a confinement means for the program to run: the
answer is a failure that keeps it from being run.  Options may ask to go on
without the restriction when it could not be put in force, but not after any
other failure. -/
def objection (settings : Settings) (result : Except Failure RestrictStatus) :
    Action (Option Failure) := do
  match result with
  | .ok .enforced =>
      .report .confined
      return none
  | .ok .skipped =>
      .report .unconfined
      return none
  | .error failure =>
      if failure.isCommitFailure && settings.bestEffort then
        .report (.unconfinedByRequest failure)
        return none
      else
        return some failure

/-- Confine the process and execute a program. -/
def runProgram (settings : Settings) (program : String) (arguments : List String) :
    Action Report := do
  match ← loadContext settings with
  | .error failure => return .failed (.confinement failure)
  | .ok context =>
      .report (.contextReady context.baseline context.rules.length)
      let result ← context.confine
      match ← objection settings result with
      | some failure => return .failed (.confinement failure)
      | none => executeProgram program arguments

def checkSupport : Action Report := do
  .report .checkingSupport
  match ← .ask Support.detect with
  | .error failure => return .failed (.confinement failure)
  | .ok support => return .success (.support support)

def listBaseline (home : Option Path) : Action Report := do
  match ← Context.baselineRules { Context.default with home := home } with
  | none => return .success .nothing
  | some baseline =>
      let rules ← .ask fun host =>
        baseline.rules.map fun rule => (⟨rule, host.pathExists rule.2⟩ : ListedRule)
      return .success (.baseline baseline.home rules)

def Request.perform : Request → Action Report
  | help => return .success .usage
  | version => return .success .version
  | run settings program arguments => runProgram settings program arguments
  | check => checkSupport
  | baseline home => listBaseline home

def programName : String := "confine-ctl"

/-- The name and the version of the program. -/
def versionText : String := s!"{programName} 0.1.0"

def usageText : String :=
  s!"Usage: {programName} [-v] run [OPTIONS] [--] PROGRAM [ARGUMENTS]\n" ++
    s!"       {programName} [-v] check\n" ++
    s!"       {programName} [-v] baseline [--home PATH]\n"

/-- The column of a word in the list of baseline rules. -/
def listColumn (word : String) : String :=
  s!"  {pad 8 word} "

/-- The line of a rule in the list of baseline rules. -/
def ListedRule.spans (listed : ListedRule) : List Span :=
  [.plain (listColumn listed.rule.1.name ++ listed.rule.2.display),
    ⟨.dim, if listed.pathExists then "" else " (missing, skipped)"⟩, .plain "\n"]

/-- The text of what a request has to show. -/
def Output.spans : Output → List Span
  | nothing => []
  | usage => [.plain usageText]
  | version => [.plain (versionText ++ "\n")]
  | support found =>
      let verdict : Span :=
        if found.isAvailable then
          ⟨.colored .green, "Landlock confinement available"⟩
        else
          ⟨.colored .yellow,
            "Landlock confinement unavailable, programs will run unconfined"⟩
      [.plain (s!"Checking Landlock support...\n\n{found.summary}\n\n"), verdict, .plain "\n"]
  | baseline home rules =>
      let shownHome : Span := match home with
        | some home => .plain home.display
        | none => ⟨.colored .yellow, "(home unresolved)"⟩
      [.plain ("Baseline Landlock rules:\n\n" ++ listColumn "rw"), shownHome, .plain "\n"] ++
        rules.flatMap ListedRule.spans

def RequestFailure.spans (failure : RequestFailure) : List Span :=
  [⟨.bold .red, "error:"⟩, .plain s!" {failure.message}\n"]

/-- What the program leaves behind. -/
structure Transcript where
  exitCode : Nat
  output : String
  errors : String
  calls : List Call
deriving DecidableEq, Repr

/-- Exit code of a program that was called wrongly. -/
def misuseExitCode : Nat := 2

def transcript (presentation : Presentation) (run : Run Report) : Transcript where
  exitCode := if run.value.failure.isSome then 1 else 0
  output := Span.renderAll presentation.styled run.value.output.spans
  errors :=
    presentation.filter.notices ++ presentation.renderEvents run.events ++
      Span.renderAll presentation.styled
        (run.value.failure.toList.flatMap RequestFailure.spans)
  calls := run.calls

/-- Whether a request is carried out at a time when events can be shown.  Questions
about the program itself are answered before the filter is read. -/
def Request.isReported : Request → Bool
  | help | version => false
  | run _ _ _ | check | baseline _ => true

def Line.presentation (line : Line) (environment : Environment) : Presentation :=
  let presentation := Presentation.ofEnvironment environment line.verbose
  { presentation with
    filter := if line.request.isReported then presentation.filter else .silent }

/-- Carry out a command line on a host that has nothing open. -/
def Line.perform (line : Line) (environment : Environment) (host : Host) : Transcript :=
  transcript (line.presentation environment) (line.request.perform.run host [])

/-- Run the program; the answer is `none` when its words are refused. -/
def main? (words : List Word) (environment : Environment) (host : Host) : Option Transcript :=
  (Line.ofWords? words).map fun line => line.perform environment host

end Command
end FileConfinement
