import FileConfinement.Context.Host
import FileConfinement.DirectiveQueue

/-!
# Confining a process

A context is carried out on a ruleset: the baseline rules, the directives, and
then the restriction.  Rules that cannot be added are reported and do not stop
it; what is answered as a failure is a restriction that could not be put in
force, or a kernel whose version is unknown, and then nothing was touched.
-/

namespace FileConfinement

namespace Context

/-- Add the baseline rules of a context, if it asks for them. -/
def applyBaseline (context : Context) (ruleset : Ruleset) : Action Ruleset := do
  match ← context.baselineRules with
  | none => return ruleset
  | some baseline =>
      let (result, ruleset) ← baseline.apply ruleset
      match result with
      | .ok () => return ruleset
      | .error failure =>
          .report (.baselineIncomplete failure)
          return ruleset

/-- Put a filled ruleset in force and report a failure to do so. -/
def commit (ruleset : Ruleset) : Action (Except Failure RestrictStatus × Ruleset) := do
  let (result, ruleset) ← ruleset.restrict
  match result with
  | .ok status => return (.ok status, ruleset)
  | .error failure =>
      .report (.restrictionFailed failure)
      return (.error failure, ruleset)

/-- Carry out a context on a ruleset. -/
def confineWith (context : Context) (ruleset : Ruleset) :
    Action (Except Failure RestrictStatus × Ruleset) :=
  if !ruleset.isSupported then do
    .report (.kernelTooOld ruleset.kernel)
    return (.ok .skipped, ruleset)
  else do
    let ruleset ← context.applyBaseline ruleset
    let (added, ruleset) ← context.rules.apply ruleset
    .report (.directivesApplied added context.rules.length)
    commit ruleset

/-- Carry out a context on a ruleset of its own, which is given up afterwards. -/
def confine (context : Context) : Action (Except Failure RestrictStatus) := do
  match ← Ruleset.start with
  | .error failure => return .error failure
  | .ok ruleset =>
      let (result, ruleset) ← context.confineWith ruleset
      ruleset.discard
      return result

end Context
end FileConfinement
