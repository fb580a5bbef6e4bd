import FileConfinement.Command.Line

/-!
# The words of a program on a command line

On an accepted command line that runs a program, the arguments of the program are the
last words, taken as they are, and the name of the program is a word in front of them.
-/

namespace FileConfinement
namespace Command

/-- What a scan leaves over of some words: the program that was met before, or one that
is met among them, and the last words in order. -/
def LeavesOver (words rest : List Word) : Option Word → Prop
  | some name => ∃ between back, words = between ++ back ∧ rest = name :: back
  | none => ∀ name back, rest = name :: back →
      ∃ front between, words = front ++ name :: (between ++ back)

variable {words rest : List Word} {program : Option Word}

/-- A word that is read as an option is not left over. -/
theorem LeavesOver.skip (leaves : LeavesOver words rest program) (word : Word) :
    LeavesOver (word :: words) rest program := by
  cases program with
  | none =>
      intro name back split
      obtain ⟨front, between, rfl⟩ := leaves name back split
      exact ⟨word :: front, between, rfl⟩
  | some name =>
      obtain ⟨between, back, rfl, rfl⟩ := leaves
      exact ⟨word :: between, back, rfl, rfl⟩

/-- A word that is read as the program. -/
theorem LeavesOver.meet {word : Word} (leaves : LeavesOver words rest (some word)) :
    LeavesOver (word :: words) rest none := by
  obtain ⟨between, back, rfl, rfl⟩ := leaves
  rintro name last ⟨rfl, rfl⟩
  exact ⟨[], between, rfl⟩

/-- The words that are not read. -/
theorem leavesOver_self (words : List Word) (program : Option Word) :
    LeavesOver words (program.toList ++ words) program := by
  cases program with
  | none =>
      rintro name back rfl
      exact ⟨[], [], rfl⟩
  | some name => exact ⟨[], words, rfl, rfl⟩

theorem Scope.leavesOver_of_scan {scope : Scope} {pending : Option PathSwitch}
    (finished : (scope.scan pending program words).ending = .finished rest) :
    LeavesOver words rest program := by
  induction words generalizing pending program with
  | nil =>
      unfold scan at finished
      split at finished
      · simp [Scan.ends] at finished
      · obtain rfl := Ending.finished.inj finished
        simpa using leavesOver_self [] program
  | cons word words ih =>
      unfold scan at finished
      split at finished
      · split at finished
        · simp [Scan.ends] at finished
        · obtain rfl := Ending.finished.inj finished
          exact (leavesOver_self words program).skip word
      split at finished
      · simp [Scan.ends] at finished
      · split at finished <;> simp [Scan.ends] at finished
      · split at finished
        · simp [Scan.ends] at finished
        · exact (ih finished).skip word
      · split at finished
        · split at finished
          · simp [Scan.ends] at finished
          · exact (ih finished).skip word
        · split at finished
          · rename_i unmet
            obtain rfl := Option.isNone_iff_eq_none.mp unmet.2
            split at finished
            · exact (ih finished).meet
            · simp [Scan.ends] at finished
          · obtain rfl := Ending.finished.inj finished
            exact leavesOver_self (word :: words) program

/-- The last of some words spell the arguments of a program, and a word in front of them
spells its name. -/
def NamesProgram (words : List Word) (program : String) (arguments : List String) : Prop :=
  ∃ front name between back, words = front ++ name :: (between ++ back) ∧
    Word.strings? (name :: back) = some (program :: arguments)

theorem NamesProgram.cons {program : String} {arguments : List String}
    (names : NamesProgram words program arguments) (word : Word) :
    NamesProgram (word :: words) program arguments := by
  obtain ⟨front, name, between, back, rfl, spelled⟩ := names
  exact ⟨word :: front, name, between, back, rfl, spelled⟩

namespace Line

variable {verbose : Bool} {settings : Settings} {program : String} {arguments : List String}

/-- Only the command that runs programs leads to such a request, and its request takes
the words that are left over as they are. -/
theorem commandRequest?_eq_run {scope : Scope} {options : Settings} {spelled : List String}
    (asked : commandRequest? scope options spelled = some (.run settings program arguments)) :
    spelled = program :: arguments := by
  unfold commandRequest? at asked
  split at asked
  · simp only [Option.some.injEq, Request.run.injEq] at asked
    rw [asked.2.1, asked.2.2]
  all_goals simp at asked

theorem stopRequest_ne_run (stop : StopSwitch) :
    stopRequest stop ≠ .run settings program arguments := by
  cases stop <;> exact Request.noConfusion

theorem namesProgram_of_ofScope {scope : Scope} {top : Settings}
    (accepted : ofScope? scope top words = some ⟨verbose, .run settings program arguments⟩) :
    NamesProgram words program arguments := by
  simp only [ofScope?, Option.bind_eq_bind, Option.bind_eq_some_iff] at accepted
  obtain ⟨options, _, accepted⟩ := accepted
  split at accepted
  · simp at accepted
  · simp only [Option.pure_def, Option.some.injEq, Line.mk.injEq] at accepted
    exact absurd accepted.2 (stopRequest_ne_run _)
  · rename_i left finished
    simp only [Option.bind_eq_some_iff, Option.pure_def, Option.some.injEq, Line.mk.injEq]
      at accepted
    obtain ⟨spelled, spelling, request, asked, _, rfl⟩ := accepted
    obtain rfl := commandRequest?_eq_run asked
    have leaves := Scope.leavesOver_of_scan finished
    cases left with
    | nil => simp [Word.strings?] at spelling
    | cons name back =>
        obtain ⟨front, between, split⟩ := leaves name back rfl
        exact ⟨front, name, between, back, split, spelling⟩

theorem namesProgram_of_ofTop {met : List Setting}
    (accepted : ofTop? met words = some ⟨verbose, .run settings program arguments⟩) :
    NamesProgram words program arguments := by
  induction words generalizing met with
  | nil => simp [ofTop?] at accepted
  | cons word words ih =>
      unfold ofTop? at accepted
      split at accepted
      · simp only [Option.bind_eq_bind, Option.bind_eq_some_iff] at accepted
        obtain ⟨top, _, accepted⟩ := accepted
        exact (namesProgram_of_ofScope accepted).cons word
      · split at accepted
        · simp only [Option.bind_eq_bind, Option.bind_eq_some_iff] at accepted
          obtain ⟨top, _, accepted⟩ := accepted
          split at accepted
          · simp at accepted
          · split at accepted <;> simp at accepted
          · simp at accepted
        · split at accepted
          · simp at accepted
          · split at accepted
            · exact (ih accepted).cons word
            · simp only [Option.bind_eq_bind, Option.bind_eq_some_iff, Option.pure_def,
                Option.some.injEq, Line.mk.injEq] at accepted
              obtain ⟨top, _, _, request⟩ := accepted
              exact absurd request (stopRequest_ne_run _)
            · simp at accepted
            · simp at accepted

end Line

end Command
end FileConfinement
