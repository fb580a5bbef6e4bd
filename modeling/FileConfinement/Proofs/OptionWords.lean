import FileConfinement.Command.Line
import FileConfinement.Proofs.OptionOrder
import FileConfinement.Proofs.TextBytes

/-!
# Options as they are written

The options of a run may be written in several ways and in any order.  Scanning the words
of some options gives the options in the order in which they are written, whatever comes
behind them.
-/

namespace FileConfinement
namespace Command

/-- An option of a run as it is written on a command line. -/
inductive Occurrence where
  /-- An option without a value, by its name. -/
  | named (switch : PlainSwitch)
  /-- The option for more output, by its letter. -/
  | verboseLetter
  /-- The name of an option, and its value as a word of its own. -/
  | apart (switch : PathSwitch) (value : Word)
  /-- The name of an option, an equals sign and its value. -/
  | joined (switch : PathSwitch) (value : Word)
  /-- The letter of the configuration, and the file as a word of its own. -/
  | letterApart (file : Word)
  /-- The letter of the configuration and the file in one word. -/
  | letterAttached (file : Word)
  /-- The letter of the configuration, an equals sign and the file. -/
  | letterJoined (file : Word)
deriving DecidableEq, Repr

/-- The word that names an option. -/
def Switch.word (switch : Switch) : Word := Word.separator ++ Word.ofString switch.name

/-- The word for more output, by letter. -/
def Word.verboseLetter : Word := Word.ofString "-v"

/-- The word for the configuration, by letter. -/
def Word.configLetter : Word := Word.ofString "-c"

namespace Occurrence

def words : Occurrence → List Word
  | named switch => [(Switch.plain switch).word]
  | verboseLetter => [Word.verboseLetter]
  | apart switch value => [(Switch.path switch).word, value]
  | joined switch value => [(Switch.path switch).word ++ Word.equals :: value]
  | letterApart file => [Word.configLetter, file]
  | letterAttached file => [Word.configLetter ++ file]
  | letterJoined file => [Word.configLetter ++ Word.equals :: file]

/-- The option that is written. -/
def setting : Occurrence → Setting
  | named switch => .plain switch
  | verboseLetter => .plain .verbose
  | apart switch value | joined switch value => .path switch ⟨value⟩
  | letterApart file | letterAttached file | letterJoined file => .path .config ⟨file⟩

/-- An option can be written so: no value is empty, one that is a word of its own does not
start with a dash, and one right behind a letter does not start with an equals sign. -/
def Writable : Occurrence → Prop
  | named _ | verboseLetter => True
  | apart _ value | letterApart value => value ≠ [] ∧ value.head? ≠ some Word.dash
  | joined _ value | letterJoined value => value ≠ []
  | letterAttached value => value ≠ [] ∧ value.head? ≠ some Word.equals

instance (occurrence : Occurrence) : Decidable occurrence.Writable := by
  cases occurrence <;> unfold Writable <;> infer_instance

end Occurrence

namespace Word

theorem splitValue_append {name : Word} (unequal : equals ∉ name) (value : Word) :
    splitValue (name ++ equals :: value) = (name, some value) := by
  have different : ∀ byte ∈ name, decide (byte ≠ equals) = true := by
    intro byte member
    exact decide_eq_true fun same => unequal (same ▸ member)
  rw [splitValue, List.dropWhile_append_of_pos different, List.takeWhile_append_of_pos different]
  simp

theorem ne_separator {word : Word} (undashed : word.head? ≠ some dash) : word ≠ separator := by
  rintro rfl
  exact undashed rfl

theorem append_ne_separator {name value : Word} (long : 1 < name.length)
    (filled : value ≠ []) : name ++ value ≠ separator := by
  intro same
  have length := congrArg List.length same
  have some' := List.length_pos_iff.mpr filled
  simp only [List.length_append, separator, List.length_cons, List.length_nil] at length
  omega

end Word

namespace Switch

theorem one_lt_length_word (switch : Switch) : 1 < switch.word.length := by
  simp [word, Word.separator]

theorem word_ne_separator (switch : Switch) : switch.word ≠ Word.separator := by
  unfold word
  apply Word.append_ne_separator (by decide)
  rcases switch with (_ | _ | _) | (_ | _ | _ | _ | _ | _) | (_ | _) <;> decide

end Switch

namespace Scope

theorem readWord_plain {word : Word} (undashed : word.head? ≠ some Word.dash) (scope : Scope)
    (lenient : Bool) : scope.readWord lenient word = .plain := by
  match word with
  | [] | [_] => rfl
  | first :: second :: rest =>
      have different : first ≠ Word.dash := by simpa using undashed
      simp [readWord, different]

/-- Behind two dashes stands the name of an option. -/
theorem readWord_separator_append (scope : Scope) (lenient : Bool) (name : Word) :
    scope.readWord lenient (Word.separator ++ name) = scope.readName lenient name :=
  rfl

theorem readWord_named (switch : PlainSwitch) :
    run.readWord false (Switch.plain switch).word = .settings [.plain switch] none := by
  cases switch <;> decide

theorem readWord_name (switch : PathSwitch) :
    run.readWord false (Switch.path switch).word = .settings [] (some switch) := by
  cases switch with
  | grant accessClass => cases accessClass <;> decide
  | _ => decide

theorem named?_name (switch : PathSwitch) :
    run.named? (Switch.path switch).name.toList = some (.path switch) ∧
      Word.equals ∉ Word.ofString (Switch.path switch).name := by
  cases switch with
  | grant accessClass => cases accessClass <;> decide
  | _ => decide

theorem readWord_joined (switch : PathSwitch) {value : Word} (filled : value ≠ []) :
    run.readWord false ((Switch.path switch).word ++ Word.equals :: value) =
      .settings [.path switch ⟨value⟩] none := by
  obtain ⟨known, unequal⟩ := named?_name switch
  rw [Switch.word, List.append_assoc, readWord_separator_append, readName,
    Word.splitValue_append unequal]
  simp [Word.ofString, known, Reading.attached, filled]

theorem readWord_letterAttached {file : Word} (filled : file ≠ [])
    (unequal : file.head? ≠ some Word.equals) :
    run.readWord false (Word.configLetter ++ file) = .settings [.path .config ⟨file⟩] none := by
  have known : run.byteSwitch? 99 = some (.path .config) := by decide
  have lettered : run.readWord false (Word.configLetter ++ file) = run.readLetters (99 :: file) :=
    rfl
  rw [lettered]
  cases file with
  | nil => exact absurd rfl filled
  | cons first file =>
      have different : first ≠ Word.equals := by simpa using unequal
      simp [readLetters, known, different, Reading.attached]

theorem readWord_letterJoined {file : Word} (filled : file ≠ []) :
    run.readWord false (Word.configLetter ++ Word.equals :: file) =
      .settings [.path .config ⟨file⟩] none := by
  have known : run.byteSwitch? 99 = some (.path .config) := by decide
  have lettered : run.readWord false (Word.configLetter ++ Word.equals :: file) =
      run.readLetters (99 :: Word.equals :: file) := rfl
  rw [lettered]
  simp [readLetters, known, Reading.attached, filled]

variable (rest : List Word)

theorem scan_setting {word : Word} {setting : Setting} (other : word ≠ Word.separator)
    (read : run.readWord false word = .settings [setting] none) :
    run.scan none none (word :: rest) = (run.scan none none rest).prepend [setting] := by
  rw [scan, if_neg other]
  simp [read]

/-- An option that waits for its value takes the next word. -/
theorem scan_apart {word value : Word} {switch : PathSwitch} (other : word ≠ Word.separator)
    (read : run.readWord false word = .settings [] (some switch)) (filled : value ≠ [])
    (undashed : value.head? ≠ some Word.dash) :
    run.scan none none (word :: value :: rest) =
      (run.scan none none rest).prepend [.path switch ⟨value⟩] := by
  rw [scan, if_neg other]
  simp only [Option.isSome_none, read]
  rw [scan, if_neg (Word.ne_separator undashed)]
  simp [readWord_plain undashed, filled, Scan.prepend]

theorem scan_words {occurrence : Occurrence} (writable : occurrence.Writable) :
    run.scan none none (occurrence.words ++ rest) =
      (run.scan none none rest).prepend [occurrence.setting] := by
  cases occurrence with
  | named switch =>
      exact scan_setting rest (Switch.word_ne_separator _) (readWord_named switch)
  | verboseLetter => exact scan_setting rest (by decide) (by decide)
  | apart switch value =>
      exact scan_apart rest (Switch.word_ne_separator _) (readWord_name switch) writable.1
        writable.2
  | joined switch value =>
      exact scan_setting rest (Word.append_ne_separator (Switch.path switch).one_lt_length_word
        (List.cons_ne_nil _ _)) (readWord_joined switch writable)
  | letterApart file => exact scan_apart rest (by decide) (by decide) writable.1 writable.2
  | letterAttached file =>
      exact scan_setting rest (Word.append_ne_separator (by decide) writable.1)
        (readWord_letterAttached writable.1 writable.2)
  | letterJoined file =>
      exact scan_setting rest (Word.append_ne_separator (by decide) (List.cons_ne_nil _ _))
        (readWord_letterJoined writable)

/-- Options are met in the order in which they are written. -/
theorem scan_flatMap_words {occurrences : List Occurrence}
    (writable : ∀ occurrence ∈ occurrences, occurrence.Writable) :
    run.scan none none (occurrences.flatMap Occurrence.words ++ rest) =
      (run.scan none none rest).prepend (occurrences.map Occurrence.setting) := by
  induction occurrences with
  | nil => simp [Scan.prepend]
  | cons occurrence occurrences ih =>
      rw [List.flatMap_cons, List.append_assoc, scan_words _ (writable _ (by simp)),
        ih fun other member => writable other (by simp [member])]
      simp [Scan.prepend]

/-- Behind the separator every word is taken as it is. -/
theorem scan_separator : run.scan none none (Word.separator :: rest) = .ends (.finished rest) := by
  rw [scan, if_pos rfl]
  rfl

theorem scan_flatMap_words_separator {occurrences : List Occurrence}
    (writable : ∀ occurrence ∈ occurrences, occurrence.Writable) :
    run.scan none none (occurrences.flatMap Occurrence.words ++ Word.separator :: rest) =
      ⟨occurrences.map Occurrence.setting, .finished rest⟩ := by
  rw [scan_flatMap_words _ writable, scan_separator]
  simp [Scan.prepend, Scan.ends]

/-- Without a separator the words of the program are found by themselves, if neither the
program nor its first argument starts with a dash. -/
theorem scan_program {program : Word} {arguments : List Word}
    (text : (Utf8.decode? program).isSome) (undashed : program.head? ≠ some Word.dash)
    (undashed' : ∀ first ∈ arguments.head?, first.head? ≠ some Word.dash) :
    run.scan none none (program :: arguments) = .ends (.finished (program :: arguments)) := by
  rw [scan, if_neg (Word.ne_separator undashed)]
  simp only [Option.isSome_none, readWord_plain undashed]
  rw [if_pos (by simp), if_pos text]
  cases arguments with
  | nil => rfl
  | cons first others =>
      have undashed' := undashed' first rfl
      rw [scan, if_neg (Word.ne_separator undashed')]
      simp [readWord_plain undashed']

end Scope
end Command
end FileConfinement
