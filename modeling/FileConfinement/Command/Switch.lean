import FileConfinement.Directive

/-!
# Switches of the command line

The options that the program and its commands know, and what they are called.
-/

namespace FileConfinement
namespace Command

/-- Options that are given or not. -/
inductive PlainSwitch where
  | verbose
  | noBaseline
  | bestEffort
deriving DecidableEq, Repr

/-- Options that take a path. -/
inductive PathSwitch where
  | config
  | home
  | grant (accessClass : AccessClass)
deriving DecidableEq, Repr

/-- Options that end the reading of the command line. -/
inductive StopSwitch where
  | help
  | version
deriving DecidableEq, Repr

/-- An option. -/
inductive Switch where
  | plain (switch : PlainSwitch)
  | path (switch : PathSwitch)
  | stop (switch : StopSwitch)
deriving DecidableEq, Repr

namespace Switch

/-- The name of an option behind two dashes. -/
def name : Switch → String
  | plain .verbose => "verbose"
  | plain .noBaseline => "no-baseline"
  | plain .bestEffort => "best-effort"
  | path .config => "config"
  | path .home => "home"
  | path (.grant accessClass) => accessClass.name
  | stop .help => "help"
  | stop .version => "version"

/-- The letter of an option behind one dash, if it has one. -/
def letter? : Switch → Option Char
  | plain .verbose => some 'v'
  | path .config => some 'c'
  | stop .help => some 'h'
  | stop .version => some 'V'
  | _ => none

end Switch

/-- The places of a command line that have options of their own: in front of the
command, and behind each command. -/
inductive Scope where
  | top
  | run
  | check
  | baseline
deriving DecidableEq, Repr

namespace Scope

/-- The options that are known in a place. -/
def switches : Scope → List Switch
  | top => [.plain .verbose, .stop .help, .stop .version]
  | run =>
      [.plain .verbose, .stop .help, .path .config, .plain .noBaseline, .path .home,
        .path (.grant .read), .path (.grant .write), .path (.grant .special),
        .path (.grant .execute), .plain .bestEffort]
  | check => [.plain .verbose, .stop .help]
  | baseline => [.plain .verbose, .stop .help, .path .home]

def named? (scope : Scope) (name : List Char) : Option Switch :=
  scope.switches.find? fun switch => switch.name.toList = name

def lettered? (scope : Scope) (letter : Char) : Option Switch :=
  scope.switches.find? fun switch => switch.letter? = some letter

end Scope

/-- An option as it was given. -/
inductive Setting where
  | plain (switch : PlainSwitch)
  | path (switch : PathSwitch) (value : Path)
deriving DecidableEq, Repr

/-- The path that an option gives for a class, if it is an option of that class. -/
def Setting.pathFor? (accessClass : AccessClass) : Setting → Option Path
  | .path (.grant other) value => if other = accessClass then some value else none
  | _ => none

/-- A directive with the place of the option that asks for it among all options. -/
abbrev PlacedDirective := Nat × Directive

namespace PlacedDirective

/-- The paths that are given for a class, in order. -/
def pathsFor (accessClass : AccessClass) (list : List Setting) : List Path :=
  list.filterMap (Setting.pathFor? accessClass)

/-- The places of the options of a class, in order. -/
def placesFor (accessClass : AccessClass) (list : List Setting) : List Nat :=
  list.zipIdx.filterMap fun (setting, place) =>
    (setting.pathFor? accessClass).map fun _ => place

/-- The directives of a class: its paths one by one with their places. -/
def ofClass (list : List Setting) (accessClass : AccessClass) : List PlacedDirective :=
  ((placesFor accessClass list).zip (pathsFor accessClass list)).map fun (place, path) =>
    (place, ⟨accessClass, path⟩)

/-- Put a directive in front of those with a place behind its own. -/
def insert (placed : PlacedDirective) : List PlacedDirective → List PlacedDirective
  | [] => [placed]
  | first :: rest =>
      if placed.1 ≤ first.1 then placed :: first :: rest else first :: insert placed rest

def sort (list : List PlacedDirective) : List PlacedDirective :=
  list.foldr insert []

end PlacedDirective

/-- The directives that options ask for: they are collected class by class and then
put in the order of their options. -/
def orderedDirectives (list : List Setting) : DirectiveQueue :=
  (PlacedDirective.sort (AccessClass.all.flatMap (PlacedDirective.ofClass list))).map Prod.snd

/-- What the options of a command line amount to. -/
structure Settings where
  verbose : Bool
  noBaseline : Bool
  bestEffort : Bool
  config : Option Path
  home : Option Path
  /-- The rules asked for, in order. -/
  grants : DirectiveQueue
deriving DecidableEq, Repr

namespace Settings

def none : Settings := ⟨false, false, false, .none, .none, []⟩

/-- Add an option.  Only the options that ask for rules may be repeated; their
directives are collected apart. -/
def add? (settings : Settings) : Setting → Option Settings
  | .plain .verbose =>
      if settings.verbose then .none else some { settings with verbose := true }
  | .plain .noBaseline =>
      if settings.noBaseline then .none else some { settings with noBaseline := true }
  | .plain .bestEffort =>
      if settings.bestEffort then .none else some { settings with bestEffort := true }
  | .path .config value =>
      if settings.config.isSome then .none else some { settings with config := value }
  | .path .home value =>
      if settings.home.isSome then .none else some { settings with home := value }
  | .path (.grant _) _ => some settings

/-- What some options amount to, unless one is repeated that may not be. -/
def ofList? (list : List Setting) : Option Settings :=
  (list.foldlM add? none).map fun settings =>
    { settings with grants := orderedDirectives list }

end Settings
end Command
end FileConfinement
