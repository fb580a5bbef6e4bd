import FileConfinement.Directive

/-!
# Confinement contexts

What a run of the confinement is asked for: whether the baseline rules apply, who
the confined user is, and which directives follow.
-/

namespace FileConfinement

/-- The settings of a confinement. -/
structure Context where
  /-- Apply the baseline rules before the directives. -/
  baseline : Bool
  /-- The home directory of the confined user; found in the environment when
  absent. -/
  home : Option Path
  /-- The confined user; the user of the process when absent. -/
  uid : Option UInt32
  /-- The directory from which the confined program may re-execute itself. -/
  runtimeDirectory : Path
  /-- Directives in load order. -/
  rules : DirectiveQueue
deriving DecidableEq, Repr

namespace Context

/-- The runtime directory of a context that names none. -/
def defaultRuntimeDirectory : Path := .ofString "/run/confine"

def default : Context where
  baseline := true
  home := none
  uid := none
  runtimeDirectory := defaultRuntimeDirectory
  rules := []

def push (context : Context) (directive : Directive) : Context :=
  { context with rules := context.rules ++ [directive] }

def pushLine (context : Context) (line : String) : Except DirectiveFault Context :=
  (Directive.ofString line).map context.push

end Context
end FileConfinement
