import FileConfinement.Ruleset

/-!
# Applying directives

Directives become rules one by one.  One whose path does not exist is passed
over, and one that fails does not keep the others from being added.
-/

namespace FileConfinement

namespace DirectiveQueue

/-- Ask for the rules of the directives in order, except those for paths that do
not exist; the answer is how many were added. -/
def applyEach : DirectiveQueue → Ruleset → Action (Nat × Ruleset)
  | [], ruleset => return (0, ruleset)
  | directive :: directives, ruleset => do
      if ← Action.ask (Host.pathExists · directive.path) then
        let (result, ruleset) ← ruleset.allow directive.accessClass directive.path
        match result with
        | .ok _ =>
            let (added, ruleset) ← applyEach directives ruleset
            return (added + 1, ruleset)
        | .error failure =>
            .report (.directiveFailed directive.path failure)
            applyEach directives ruleset
      else
        .report (.directiveSkipped directive)
        applyEach directives ruleset

def apply (queue : DirectiveQueue) (ruleset : Ruleset) : Action (Nat × Ruleset) :=
  if !ruleset.isSupported then do
    if !queue.isEmpty then
      .report (.unsupported .queue)
    return (0, ruleset)
  else
    queue.applyEach ruleset

end DirectiveQueue
end FileConfinement
