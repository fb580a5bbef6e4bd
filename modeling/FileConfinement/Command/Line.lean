import FileConfinement.Command.Switch

/-!
# Command lines

The words of a command line are first scanned for options, up to the point where
the scan ends: a switch such as `--help`, a word that is refused, or the words
that are no options.  What they amount to is decided afterwards.  Options are
known by their place: in front of the command and behind it.
-/

namespace FileConfinement
namespace Command

/-- A word of a command line. -/
abbrev Word := List UInt8

namespace Word

def ofString (string : String) : Word := Utf8.encode string.toList

def dash : UInt8 := 45

/-- The sign between an option and its value. -/
def equals : UInt8 := 61

/-- The word behind which no option is recognised. -/
def separator : Word := [dash, dash]

/-- Cut a word in front of and behind its first equals sign. -/
def splitValue (word : Word) : Word × Option Word :=
  match word.dropWhile (· ≠ equals) with
  | _ :: value => (word.takeWhile (· ≠ equals), some value)
  | [] => (word, none)

/-- The words as strings, if all of them are text. -/
def strings? (words : List Word) : Option (List String) :=
  words.mapM fun word => (Utf8.decode? word).map String.ofList

end Word

/-- What one word says in a place where options may stand. -/
inductive Reading where
  /-- Options; the last one may wait for the next word as its value. -/
  | settings (settings : List Setting) (pending : Option PathSwitch)
  /-- Options and then one that ends the scan. -/
  | stopped (settings : List Setting) (stop : StopSwitch)
  | refused
  /-- The word is no option. -/
  | plain
deriving DecidableEq, Repr

namespace Reading

/-- A reading with one more option in front. -/
def prepend (setting : Setting) : Reading → Reading
  | settings others pending => settings (setting :: others) pending
  | stopped others stop => stopped (setting :: others) stop
  | refused => refused
  | plain => plain

/-- An option with the value that is attached to it; the value must not be
empty. -/
def attached (switch : PathSwitch) (value : Word) : Reading :=
  if value.isEmpty then refused else settings [.path switch ⟨value⟩] none

end Reading

namespace Scope

/-- The option of a byte that spells its letter. -/
def byteSwitch? (scope : Scope) (byte : UInt8) : Option Switch :=
  if byte < 0x80 then scope.lettered? (Char.ofNat byte.toNat) else none

/-- Read the letters behind a dash.  The value of an option that takes one is
the rest of the word, without an equals sign in front. -/
def readLetters (scope : Scope) : Word → Reading
  | [] => .settings [] none
  | byte :: rest =>
      match scope.byteSwitch? byte with
      | none => .refused
      | some (.plain switch) => (readLetters scope rest).prepend (.plain switch)
      | some (.stop stop) => .stopped [] stop
      | some (.path switch) =>
          match rest with
          | [] => .settings [] (some switch)
          | first :: value =>
              .attached switch (if first = Word.equals then value else first :: value)

/-- Read what stands behind two dashes.  A lenient reading takes a name that is
not known for a plain word. -/
def readName (scope : Scope) (lenient : Bool) (word : Word) : Reading :=
  let (name, value) := Word.splitValue word
  match Utf8.decode? name with
  | none => .refused
  | some name =>
      match scope.named? name, value with
      | some (.plain switch), none => .settings [.plain switch] none
      | some (.stop stop), none => .stopped [] stop
      | some (.path switch), some value => .attached switch value
      | some (.path switch), none => .settings [] (some switch)
      | some _, some _ => .refused
      | none, _ => if lenient then .plain else .refused

/-- Read a word other than the separator.  A lenient reading takes a word with a
letter that is not known for a plain word. -/
def readWord (scope : Scope) (lenient : Bool) (word : Word) : Reading :=
  match word with
  | first :: second :: rest =>
      if first = Word.dash then
        if second = Word.dash then
          scope.readName lenient rest
        else if lenient && (second :: rest).any (fun byte => (scope.byteSwitch? byte).isNone) then
          .plain
        else
          scope.readLetters (second :: rest)
      else
        .plain
  | _ => .plain

end Scope

/-- How the scan of a command line ends. -/
inductive Ending where
  | refused
  | stopped (stop : StopSwitch)
  /-- The words that are no options. -/
  | finished (words : List Word)
deriving DecidableEq, Repr

/-- The options that a scan met and how it ended. -/
structure Scan where
  settings : List Setting
  ending : Ending
deriving DecidableEq, Repr

namespace Scan

/-- A scan that ends without meeting an option. -/
def ends (ending : Ending) : Scan := ⟨[], ending⟩

def prepend (settings : List Setting) (scan : Scan) : Scan :=
  ⟨settings ++ scan.settings, scan.ending⟩

end Scan

namespace Scope

/-- Scan the words behind a command.  An option may wait for its value, and the
program to run may have been met; then options are still recognised up to its
first argument, and words that are no known options are lenient. -/
def scan (scope : Scope) (pending : Option PathSwitch) (program : Option Word) :
    List Word → Scan
  | [] => .ends (if pending.isSome then .refused else .finished program.toList)
  | word :: rest =>
      if word = Word.separator then
        .ends (if pending.isSome then .refused else .finished (program.toList ++ rest))
      else
        match scope.readWord program.isSome word with
        | .refused => .ends .refused
        | .stopped settings stop =>
            if pending.isSome then .ends .refused else ⟨settings, .stopped stop⟩
        | .settings settings next =>
            if pending.isSome then .ends .refused
            else (scope.scan next program rest).prepend settings
        | .plain =>
            match pending with
            | some switch =>
                if word.isEmpty then .ends .refused
                else (scope.scan none program rest).prepend [.path switch ⟨word⟩]
            | none =>
                if scope = .run ∧ program.isNone then
                  if (Utf8.decode? word).isSome then scope.scan none (some word) rest
                  else .ends .refused
                else
                  .ends (.finished (program.toList ++ word :: rest))

end Scope

/-- What a command line asks for. -/
inductive Request where
  | help
  | version
  /-- Confine the process and execute a program. -/
  | run (settings : Settings) (program : String) (arguments : List String)
  /-- Report on the support for confinement. -/
  | check
  /-- List the baseline rules. -/
  | baseline (home : Option Path)
deriving DecidableEq, Repr

/-- A command line that was understood. -/
structure Line where
  verbose : Bool
  request : Request
deriving DecidableEq, Repr

namespace Line

/-- The request of a switch that ends the scan. -/
def stopRequest : StopSwitch → Request
  | .help => .help
  | .version => .version

/-- The request of a command, from its options and the words that are none. -/
def commandRequest? (scope : Scope) (settings : Settings) (words : List String) :
    Option Request :=
  match scope, words with
  | .run, program :: arguments => some (.run settings program arguments)
  | .check, [] => some .check
  | .baseline, [] => some (.baseline settings.home)
  | _, _ => none

/-- Understand the words behind a command, given the options in front of it. -/
def ofScope? (scope : Scope) (top : Settings) (words : List Word) : Option Line := do
  let scan := scope.scan none none words
  let settings ← Settings.ofList? scan.settings
  let verbose := top.verbose || settings.verbose
  match scan.ending with
  | .refused => none
  | .stopped stop => return ⟨verbose, stopRequest stop⟩
  | .finished words =>
      let words ← Word.strings? words
      return ⟨verbose, ← commandRequest? scope settings words⟩

def commands : List (String × Scope) :=
  [("run", .run), ("check", .check), ("baseline", .baseline)]

def command? (word : Word) : Option Scope :=
  (commands.find? fun command => Word.ofString command.1 = word).map Prod.snd

/-- The word that asks for help on a command. -/
def helpCommand : Word := Word.ofString "help"

/-- Understand the words behind the options that were met in front of the
command. -/
def ofTop? (met : List Setting) : List Word → Option Line
  | [] => none
  | word :: rest =>
      match command? word with
      | some scope => do
          let settings ← Settings.ofList? met
          ofScope? scope settings rest
      | none =>
          if word = helpCommand then do
            let settings ← Settings.ofList? met
            match rest with
            | [] => return ⟨settings.verbose, .help⟩
            | [topic] =>
                if (command? topic).isSome || topic = helpCommand then
                  return ⟨settings.verbose, .help⟩
                else
                  none
            | _ => none
          else if word = Word.separator then
            none
          else
            match Scope.top.readWord false word with
            | .settings settings _ => ofTop? (met ++ settings) rest
            | .stopped settings stop => do
                let settings ← Settings.ofList? (met ++ settings)
                return ⟨settings.verbose, stopRequest stop⟩
            | .refused | .plain => none

/-- Understand a command line; the answer is `none` when its words are refused. -/
def ofWords? (words : List Word) : Option Line :=
  ofTop? [] words

end Line
end Command
end FileConfinement
