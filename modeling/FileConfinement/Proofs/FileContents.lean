import FileConfinement.Confinement
import FileConfinement.Proofs.TextBytes

/-!
# What files contain

A host may have a file with another content.  Reading the file is the only way to tell: a
confinement runs alike on two hosts that differ in nothing but what their files contain.
-/

namespace FileConfinement

/-- A file without its content. -/
def FileEntry.withoutContent (entry : FileEntry) : FileEntry :=
  { entry with content := none }

namespace Host

/-- A host without the contents of its files. -/
def withoutContents (host : Host) : Host :=
  { host with files := host.files.map FileEntry.withoutContent }

/-- A host whose file at a path holds some bytes; nothing else is different. -/
def store (host : Host) (path : Path) (bytes : List UInt8) : Host :=
  { host with
    files := host.files.map fun entry =>
      if entry.path = path then { entry with content := some bytes } else entry }

theorem withoutContents_store (host : Host) (path : Path) (bytes : List UInt8) :
    (host.store path bytes).withoutContents = host.withoutContents := by
  simp only [withoutContents, store, List.map_map, mk.injEq, List.map_inj_left, true_and]
  intro entry _
  simp only [Function.comp_apply]
  split <;> rfl

theorem file?_withoutContents (host : Host) (path : Path) :
    host.withoutContents.file? path = (host.file? path).map FileEntry.withoutContent := by
  simp only [file?, withoutContents, List.find?_map]
  rfl

theorem pathExists_withoutContents (host : Host) (path : Path) :
    host.withoutContents.pathExists path = host.pathExists path := by
  rw [pathExists, pathExists, file?_withoutContents]
  cases host.file? path <;> rfl

theorem openError?_withoutContents (host : Host) (path : Path) :
    host.withoutContents.openError? path = host.openError? path := by
  rw [openError?, openError?, file?_withoutContents]
  cases host.file? path <;> rfl

theorem ruleError?_withoutContents (host : Host) (path : Path) :
    host.withoutContents.ruleError? path = host.ruleError? path := by
  rw [ruleError?, ruleError?, file?_withoutContents]
  cases host.file? path <;> rfl

theorem file?_store_self (host : Host) (path : Path) (bytes : List UInt8) :
    (host.store path bytes).file? path =
      (host.file? path).map fun entry => { entry with content := some bytes } := by
  simp only [file?, store]
  induction host.files with
  | nil => rfl
  | cons entry files ih =>
      by_cases same : entry.path = path
      · simp [same]
      · simp [same, ih]

/-- Whether a file can be read does not depend on what it holds. -/
theorem readFile_store (host : Host) (path : Path) :
    (∃ fault, ∀ bytes, (host.store path bytes).readFile path = .error fault) ∨
      ∀ bytes, (host.store path bytes).readFile path = .ok bytes := by
  cases nul : path.hasNul with
  | true => exact .inl ⟨.nulInPath, fun bytes => by simp [readFile, nul]⟩
  | false =>
      cases found : host.file? path with
      | none =>
          refine .inl ⟨.code .notFound, fun bytes => ?_⟩
          simp [readFile, nul, openError?, file?_store_self, found]
      | some entry =>
          cases refused : entry.openError with
          | some errno =>
              refine .inl ⟨.code errno, fun bytes => ?_⟩
              simp [readFile, nul, openError?, file?_store_self, found, refused]
          | none =>
              refine .inr fun bytes => ?_
              simp [readFile, nul, openError?, file?_store_self, found, refused]

end Host

namespace Action

variable {α β : Type}

/-- An action that runs alike whatever the files of its host contain. -/
def IgnoresContents (action : Action α) : Prop :=
  ∀ host table, action.run host.withoutContents table = action.run host table

theorem IgnoresContents.run_eq {action : Action α} (ignores : action.IgnoresContents)
    {host other : Host} (same : host.withoutContents = other.withoutContents)
    (table : DescriptorTable) : action.run host table = action.run other table := by
  rw [← ignores host, same, ignores other]

namespace IgnoresContents

theorem pure (value : α) : IgnoresContents (Pure.pure value) := fun _ _ => rfl

theorem bind {first : Action α} {next : α → Action β} (ignores : first.IgnoresContents)
    (ignores' : ∀ value, (next value).IgnoresContents) : (first >>= next).IgnoresContents := by
  intro host table
  simp only [run_bind, ignores host table, ignores' _ host _]

/-- What follows two beginnings that went alike goes alike. -/
theorem run_bind_eq {first other : Action α} {next : α → Action β}
    (ignores : ∀ value, (next value).IgnoresContents) {host host' : Host} {table : DescriptorTable}
    (sameHost : host.withoutContents = host'.withoutContents)
    (same : first.run host table = other.run host' table) :
    (first >>= next).run host table = (other >>= next).run host' table := by
  simp only [run_bind, same, (ignores _).run_eq sameHost]

theorem ask {question : Host → α} (same : ∀ host, question host.withoutContents = question host) :
    (Action.ask question).IgnoresContents := by
  intro host table
  rw [run_ask, run_ask, same]

theorem report (event : Event) : (Action.report event).IgnoresContents := fun _ _ => rfl

theorem createRuleset (handled : AccessMask) : (Kernel.createRuleset handled).IgnoresContents :=
  fun _ _ => rfl

theorem openPath (path : Path) : (Kernel.openPath path).IgnoresContents := by
  intro host table
  simp only [run, Kernel.openPath, host.openError?_withoutContents]

theorem addRule (ruleset : Nat) (mask : AccessMask) (parent : Nat) :
    (Kernel.addRule ruleset mask parent).IgnoresContents := by
  intro host table
  have same : host.withoutContents.ruleError? = host.ruleError? :=
    funext host.ruleError?_withoutContents
  simp only [run, Kernel.addRule, same]

theorem close (descriptor : Nat) : (Kernel.close descriptor).IgnoresContents := fun _ _ => rfl

theorem giveUpPrivileges : Kernel.giveUpPrivileges.IgnoresContents := fun _ _ => rfl

theorem restrict (ruleset : Nat) : (Kernel.restrict ruleset).IgnoresContents := fun _ _ => rfl

theorem execute (program : String) (arguments : List String) :
    (Kernel.execute program arguments).IgnoresContents := fun _ _ => rfl

end IgnoresContents
end Action

open FileConfinement.Action

namespace Ruleset

theorem ignoresContents_start : Ruleset.start.IgnoresContents := .ask fun _ => rfl

theorem ignoresContents_ensureOpen (ruleset : Ruleset) : ruleset.ensureOpen.IgnoresContents := by
  unfold ensureOpen
  split
  · exact .pure _
  · exact .pure _
  · refine .bind (.createRuleset _) fun reply => ?_
    split
    · exact .pure _
    · exact .bind (.report _) fun _ => .pure _

theorem ignoresContents_insertRule (descriptor : Nat) (mask : AccessMask) (path : Path) :
    (insertRule descriptor mask path).IgnoresContents := by
  unfold insertRule
  split
  · exact .pure _
  · refine .bind (.openPath _) fun reply => ?_
    split
    · exact .pure _
    · refine .bind (.addRule _ _ _) fun reply => .bind (.close _) fun _ => ?_
      split <;> exact .pure _

theorem ignoresContents_allowMask (mask : AccessMask) (path : Path) (ruleset : Ruleset) :
    (ruleset.allowMask mask path).IgnoresContents := by
  unfold allowMask
  split
  · exact .bind (.report _) fun _ => .pure _
  · refine .bind ruleset.ignoresContents_ensureOpen fun opened => ?_
    split
    · exact .pure _
    · refine .bind (ignoresContents_insertRule _ _ _) fun inserted => ?_
      split
      · exact .pure _
      · exact .bind (.report _) fun _ => .pure _

theorem ignoresContents_restrict (ruleset : Ruleset) : ruleset.restrict.IgnoresContents := by
  have enforced (descriptor : Nat) : (enforce descriptor).IgnoresContents := by
    refine .bind .giveUpPrivileges fun reply => ?_
    split
    · exact .pure _
    · refine .bind (.restrict _) fun reply => ?_
      split <;> exact .pure _
  unfold Ruleset.restrict
  split
  · exact .bind (.report _) fun _ => .pure _
  · split
    · exact .pure _
    · exact .pure _
    · refine .bind (enforced _) fun result => ?_
      split
      · exact .pure _
      · exact .bind (.close _) fun _ => .bind (.report _) fun _ => .pure _

theorem ignoresContents_discard (ruleset : Ruleset) : ruleset.discard.IgnoresContents := by
  unfold discard
  split
  · exact .close _
  · exact .pure _

end Ruleset

namespace Baseline

theorem ignoresContents_record {α : Type} (tally : Tally) (result : Except Failure α) :
    (record tally result).IgnoresContents := by
  cases result with
  | ok => exact .pure _
  | error => exact .bind (.report _) fun _ => .pure _

theorem ignoresContents_applyHome (home : Option Path) (ruleset : Ruleset) :
    (applyHome home ruleset).IgnoresContents := by
  unfold applyHome
  split
  · exact .bind (ruleset.ignoresContents_allowMask _ _) fun _ =>
      .bind (ignoresContents_record _ _) fun _ => .pure _
  · exact .bind (ignoresContents_record _ _) fun _ => .pure _

theorem ignoresContents_applyRules (rules : List ClassRule) (tally : Tally) (ruleset : Ruleset) :
    (applyRules rules tally ruleset).IgnoresContents := by
  induction rules generalizing tally ruleset with
  | nil => exact .pure _
  | cons rule rules ih =>
      refine .bind (.ask fun host => host.pathExists_withoutContents rule.2) fun found => ?_
      split
      · exact .bind (ruleset.ignoresContents_allowMask _ _) fun _ =>
          .bind (ignoresContents_record _ _) fun _ => ih _ _
      · exact .bind (.report _) fun _ => ih _ _

theorem ignoresContents_apply (baseline : Baseline) (ruleset : Ruleset) :
    (baseline.apply ruleset).IgnoresContents := by
  unfold apply
  split
  · exact .bind (.report _) fun _ => .pure _
  · refine .bind (ignoresContents_applyHome _ _) fun _ =>
      .bind (ignoresContents_applyRules _ _ _) fun _ => .bind (.report _) fun _ => ?_
    split <;> exact .pure _

end Baseline

namespace DirectiveQueue

theorem ignoresContents_applyEach (queue : DirectiveQueue) (ruleset : Ruleset) :
    (queue.applyEach ruleset).IgnoresContents := by
  induction queue generalizing ruleset with
  | nil => exact .pure _
  | cons directive queue ih =>
      refine .bind (.ask fun host => host.pathExists_withoutContents directive.path) fun found => ?_
      split
      · refine .bind (ruleset.ignoresContents_allowMask _ _) ?_
        rintro ⟨_ | _, ruleset⟩
        · exact .bind (.report _) fun _ => ih _
        · exact .bind (ih _) fun _ => .pure _
      · exact .bind (.report _) fun _ => ih _

theorem ignoresContents_apply (queue : DirectiveQueue) (ruleset : Ruleset) :
    (queue.apply ruleset).IgnoresContents := by
  unfold apply
  split
  · dsimp only
    split
    · exact .bind (.report _) fun _ => .pure _
    · exact .pure _
  · exact queue.ignoresContents_applyEach ruleset

end DirectiveQueue

namespace Context

theorem ignoresContents_baselineRules (context : Context) :
    context.baselineRules.IgnoresContents := by
  unfold baselineRules
  split
  · refine .bind (.ask fun _ => rfl) fun uid => .bind (.ask fun _ => rfl) fun home => ?_
    split
    · exact .pure _
    · exact .bind (.report _) fun _ => .pure _
  · exact .pure _

theorem ignoresContents_applyBaseline (context : Context) (ruleset : Ruleset) :
    (context.applyBaseline ruleset).IgnoresContents := by
  refine .bind context.ignoresContents_baselineRules fun rules => ?_
  split
  · exact .pure _
  · refine .bind (Baseline.ignoresContents_apply _ _) ?_
    rintro ⟨_ | _, ruleset⟩
    · exact .bind (.report _) fun _ => .pure _
    · exact .pure _

/-- A confinement never looks into a file. -/
theorem ignoresContents_confine (context : Context) : context.confine.IgnoresContents := by
  have committed (ruleset : Ruleset) : (commit ruleset).IgnoresContents := by
    refine .bind ruleset.ignoresContents_restrict ?_
    rintro ⟨_ | _, ruleset⟩
    · exact .bind (.report _) fun _ => .pure _
    · exact .pure _
  have carriedOut (ruleset : Ruleset) : (context.confineWith ruleset).IgnoresContents := by
    unfold confineWith
    split
    · exact .bind (.report _) fun _ => .pure _
    · exact .bind (context.ignoresContents_applyBaseline _) fun _ =>
        .bind (DirectiveQueue.ignoresContents_apply _ _) fun _ =>
          .bind (.report _) fun _ => committed _
  refine .bind Ruleset.ignoresContents_start fun started => ?_
  split
  · exact .pure _
  · exact .bind (carriedOut _) fun _ => .bind (Ruleset.ignoresContents_discard _) fun _ => .pure _

end Context
end FileConfinement
