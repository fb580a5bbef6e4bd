import FileConfinement.Proofs.Protocol

/-!
# Records of calls for many rulesets

The calls of a session serve one ruleset after another, and sometimes one beside
another.  A record keeps for every call the number of the ruleset that it was made
for.  When the calls for a ruleset follow the protocol, every rule and every
restriction in the record stands right behind the call that it depends on and names a
ruleset that is live at that point.
-/

namespace FileConfinement

/-- A call with the number of the ruleset that it was made for. -/
structure Entry where
  owner : Nat
  call : Call
deriving DecidableEq, Repr

/-- Calls in the order in which they were made. -/
abbrev Record := List Entry

namespace Record

/-- The record of calls that were made for one ruleset. -/
def of (owner : Nat) (calls : List Call) : Record := calls.map (Entry.mk owner)

/-- The calls that were made for one ruleset. -/
def callsOf (record : Record) (owner : Nat) : List Call :=
  (record.filter fun entry => entry.owner = owner).map Entry.call

/-- A ruleset was created on a descriptor with some handled rights, and since then the
descriptor was neither closed nor put in force. -/
def Live (record : Record) (owner descriptor : Nat) (handled : AccessMask) : Prop :=
  ∃ before after : Record,
    record = before ++ ⟨owner, .createRuleset handled (.granted descriptor)⟩ :: after ∧
      .close descriptor ∉ after.map Entry.call ∧
      .restrict descriptor (.granted ()) ∉ after.map Entry.call

/-- What a rule needs of the calls before it. -/
def RuleInPlace (before : Record) (owner descriptor : Nat) (mask : AccessMask) (parent : Nat) :
    Prop :=
  ∃ handled path, before.Live owner descriptor handled ∧
    mask.bits ≠ 0 ∧ mask.IsWithin handled ∧
    before.getLast? = some ⟨owner, .openPath path (.granted parent)⟩

/-- What a restriction needs of the calls before it. -/
def RestrictionInPlace (before : Record) (owner descriptor : Nat) : Prop :=
  (∃ handled, before.Live owner descriptor handled) ∧
    before.getLast? = some ⟨owner, .giveUpPrivileges (.granted ())⟩

/-- What a call needs of the calls before it. -/
def InPlace (before : Record) (entry : Entry) : Prop :=
  match entry.call with
  | .addRule descriptor mask parent _ => before.RuleInPlace entry.owner descriptor mask parent
  | .restrict descriptor _ => before.RestrictionInPlace entry.owner descriptor
  | _ => True

/-- Every call of a record has what it needs. -/
def InOrder (record : Record) : Prop :=
  ∀ before entry after, record = before ++ entry :: after → InPlace before entry

/-- The record that a phase of a ruleset presupposes. -/
def At (record : Record) (owner : Nat) : Phase → Prop
  | .open descriptor | .leaving descriptor _ => record.Live owner descriptor .handled
  | .inserting descriptor parent =>
      record.Live owner descriptor .handled ∧
        ∃ path, record.getLast? = some ⟨owner, .openPath path (.granted parent)⟩
  | .surrendered descriptor =>
      record.Live owner descriptor .handled ∧
        record.getLast? = some ⟨owner, .giveUpPrivileges (.granted ())⟩
  | _ => True

@[simp] theorem map_call_of (owner : Nat) (calls : List Call) :
    (of owner calls).map Entry.call = calls := by
  simp [of, Function.comp_def]

theorem callsOf_append (first second : Record) (owner : Nat) :
    callsOf (first ++ second) owner = callsOf first owner ++ callsOf second owner := by
  simp [callsOf]

@[simp] theorem callsOf_of_self (owner : Nat) (calls : List Call) :
    callsOf (of owner calls) owner = calls := by
  have all : (of owner calls).filter (fun entry => decide (entry.owner = owner)) =
      of owner calls := by
    rw [List.filter_eq_self]
    intro entry member
    obtain ⟨call, _, rfl⟩ := List.mem_map.mp member
    simp
  rw [callsOf, all, map_call_of]

theorem callsOf_eq_nil {record : Record} {owner : Nat}
    (others : ∀ entry ∈ record, entry.owner ≠ owner) : record.callsOf owner = [] := by
  rw [callsOf, List.map_eq_nil_iff, List.filter_eq_nil_iff]
  intro entry member
  simpa using others entry member

theorem callsOf_of_other {owner other : Nat} (different : owner ≠ other) (calls : List Call) :
    callsOf (of owner calls) other = [] := by
  refine callsOf_eq_nil ?_
  intro entry member
  obtain ⟨call, _, rfl⟩ := List.mem_map.mp member
  exact different

variable {record : Record} {owner descriptor : Nat} {handled : AccessMask}

theorem Live.append (live : record.Live owner descriptor handled) {more : Record}
    (unclosed : .close descriptor ∉ more.map Entry.call)
    (unenforced : .restrict descriptor (.granted ()) ∉ more.map Entry.call) :
    Live (record ++ more) owner descriptor handled := by
  obtain ⟨before, after, split, closes, enforces⟩ := live
  refine ⟨before, after ++ more, ?_, ?_, ?_⟩
  · rw [split, List.append_assoc, List.cons_append]
  · rw [List.map_append, List.mem_append, not_or]
    exact ⟨closes, unclosed⟩
  · rw [List.map_append, List.mem_append, not_or]
    exact ⟨enforces, unenforced⟩

theorem Live.append_call (live : record.Live owner descriptor handled) {other : Nat} {call : Call}
    (unclosed : call ≠ .close descriptor)
    (unenforced : call ≠ .restrict descriptor (.granted ())) :
    Live (record ++ [⟨other, call⟩]) owner descriptor handled := by
  refine live.append ?_ ?_
  · simpa using unclosed.symm
  · simpa using unenforced.symm

theorem live_of_created (record : Record) (owner descriptor : Nat) (handled : AccessMask) :
    Live (record ++ [⟨owner, .createRuleset handled (.granted descriptor)⟩]) owner descriptor
      handled :=
  ⟨record, [], rfl, List.not_mem_nil, List.not_mem_nil⟩

theorem inOrder_nil : InOrder [] := by
  intro before entry after split
  simp at split

theorem InOrder.append_singleton (inOrder : record.InOrder) {entry : Entry}
    (inPlace : record.InPlace entry) : InOrder (record ++ [entry]) := by
  intro before other after split
  rcases place_of_append_singleton split with ⟨_, rfl, rfl⟩ | ⟨rest, earlier⟩
  · exact inPlace
  · exact inOrder before other rest earlier

variable {taken : List Nat} {phase next : Phase} {call : Call} {calls : List Call}

/-- One call of the protocol has what it needs, and leaves behind what the next one
needs. -/
theorem At.proceed (reached : record.At owner phase) (step : phase.Next taken call next) :
    record.InPlace ⟨owner, call⟩ ∧ At (record ++ [⟨owner, call⟩]) owner next := by
  cases step with
  | creationRefused errno => exact ⟨trivial, trivial⟩
  | created free => exact ⟨trivial, live_of_created record owner _ .handled⟩
  | parentRefused descriptor path errno =>
      exact ⟨trivial, Live.append_call reached nofun nofun⟩
  | parentOpened descriptor path parent =>
      refine ⟨trivial, Live.append_call reached nofun nofun, path, ?_⟩
      exact List.getLast?_concat
  | ruleAnswered descriptor parent grantable reply =>
      obtain ⟨live, path, last⟩ := reached
      refine ⟨?_, live.append_call nofun nofun⟩
      exact ⟨.handled, path, live, grantable.1, grantable.2, last⟩
  | parentClosed free =>
      refine ⟨trivial, Live.append_call reached ?_ nofun⟩
      rintro ⟨rfl⟩
      exact free List.mem_cons_self
  | privilegesKept descriptor errno =>
      exact ⟨trivial, Live.append_call reached nofun nofun⟩
  | privilegesGivenUp descriptor =>
      exact ⟨trivial, Live.append_call reached nofun nofun, List.getLast?_concat⟩
  | restrictionRefused descriptor errno =>
      obtain ⟨live, last⟩ := reached
      exact ⟨⟨⟨.handled, live⟩, last⟩, live.append_call nofun nofun⟩
  | restrictionGranted free =>
      obtain ⟨live, last⟩ := reached
      exact ⟨⟨⟨.handled, live⟩, last⟩, trivial⟩
  | released free => exact ⟨trivial, trivial⟩
  | discarded free => exact ⟨trivial, trivial⟩

/-- All calls of the protocol have what they need, by induction on the calls with the
record growing. -/
theorem InOrder.leads (inOrder : record.InOrder) (reached : record.At owner phase)
    (leads : phase.Leads taken calls next) :
    InOrder (record ++ of owner calls) ∧ At (record ++ of owner calls) owner next := by
  induction leads generalizing record with
  | rest =>
      simp only [of, List.map_nil, List.append_nil]
      exact ⟨inOrder, reached⟩
  | @next first second third call calls step _ ih =>
      obtain ⟨inPlace, reached'⟩ := At.proceed reached step
      have later := ih (inOrder.append_singleton inPlace) reached'
      rwa [List.append_assoc] at later

end Record
end FileConfinement
