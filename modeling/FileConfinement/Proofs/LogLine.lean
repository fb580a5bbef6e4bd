import FileConfinement.Command.Perform

/-!
# The lines of events

The line of an event is the name of its level and its text, and the line of a failure a label
and its text; names and labels are wrapped in styles.  A style is a control function like any
other, so a line from which control functions are removed reads the same with and without
styles; and as a style is complete where it stands, removing control functions touches the
name of the level and the text separately.
-/

namespace FileConfinement

namespace Text

/-- Where the reading of a text ends. -/
def ControlReading.behind (reading : ControlReading) (text : List Char) : ControlReading :=
  text.foldl (fun reading character => (reading.read character).1) reading

theorem ControlReading.shown_append (reading : ControlReading) (first second : List Char) :
    reading.shown (first ++ second) =
      reading.shown first ++ (reading.behind first).shown second := by
  induction first generalizing reading with
  | nil => rfl
  | cons character first ih =>
      have behind : reading.behind (character :: first) =
          (reading.read character).1.behind first := rfl
      simp only [List.cons_append, shown, ih, behind]
      cases (reading.read character).2 <;> rfl

theorem ControlReading.isShown_of_read {reading : ControlReading} {character : Char}
    (visible : (reading.read character).2 = true) : isShown character = true := by
  rw [read] at visible
  split at visible
  · exact absurd visible Bool.false_ne_true
  split at visible
  · exact absurd visible Bool.false_ne_true
  cases reading with
  | text suspended =>
      by_cases shown : isShown character = true
      · exact shown
      · simp [readCharacter, shown] at visible
  | inside function =>
      by_cases suspends : (isLayout character && function.isSuspendable) = true
      · rw [isShown, (Bool.and_eq_true_iff.mp suspends).1, Bool.true_or]
      · simp [readCharacter, suspends] at visible

theorem ControlReading.isShown_of_mem_shown {text : List Char} {reading : ControlReading}
    {character : Char} (member : character ∈ reading.shown text) : isShown character = true := by
  induction text generalizing reading with
  | nil => exact absurd member List.not_mem_nil
  | cons first rest ih =>
      simp only [shown] at member
      split at member
      · rename_i visible
        rcases List.mem_cons.mp member with rfl | later
        · exact isShown_of_read visible
        · exact ih later
      · exact ih member

/-- A text without control functions holds no control character but tabs and line ends. -/
theorem isShown_of_mem_withoutControls {text : List Char} {character : Char}
    (member : character ∈ withoutControls text) : isShown character = true :=
  ControlReading.isShown_of_mem_shown member

/-- Every control function in a text is complete at its end. -/
def IsComplete (text : List Char) : Prop :=
  (ControlReading.text none).behind text = .text none

instance (text : List Char) : Decidable (IsComplete text) :=
  inferInstanceAs (Decidable (_ = _))

theorem IsComplete.withoutControls_append {first : List Char} (complete : IsComplete first)
    (second : List Char) :
    withoutControls (first ++ second) = withoutControls first ++ withoutControls second := by
  rw [withoutControls, ControlReading.shown_append, complete]
  rfl

end Text

namespace Command

/-! ### Text in style -/

/-- A text between the sequences of a style and the one that resets it, if styles are asked
for. -/
def wrapped (styled : Bool) (sequences text : String) : String :=
  if styled then sequences ++ text ++ "\x1b[0m" else text

theorem render_eq_wrapped {style : Style} {sequences : String} (some : style.codes ≠ [])
    (spelled : String.join (style.codes.map Span.escapeSequence) = sequences) (styled : Bool)
    (text : String) : Span.render styled ⟨style, text⟩ = wrapped styled sequences text := by
  have reset : Span.escapeSequence 0 = "\x1b[0m" := by decide
  cases styled with
  | false => rfl
  | true => simp [Span.render, some, spelled, wrapped, reset]

/-- The name of a level, filled up to five characters. -/
def levelText (styled : Bool) : Level → String
  | .error => wrapped styled "\x1b[31m\x1b[1m" "ERROR"
  | .warning => wrapped styled "\x1b[33m\x1b[1m" "WARN "
  | .info => wrapped styled "\x1b[32m" "INFO "
  | .debug => wrapped styled "\x1b[36m" "DEBUG"
  | .trace => wrapped styled "\x1b[2m" "TRACE"

theorem render_level (styled : Bool) (level : Level) :
    Span.render styled ⟨levelStyle level, pad 5 level.name⟩ = levelText styled level := by
  cases styled <;> cases level <;> decide

theorem isComplete_levelText (styled : Bool) (level : Level) :
    Text.IsComplete (levelText styled level).toList := by
  cases styled <;> cases level <;> decide

theorem withoutControls_levelText (styled : Bool) (level : Level) :
    Text.withoutControls (levelText styled level).toList = (levelText false level).toList := by
  cases styled <;> cases level <;> decide

/-- The line that tells why a request was not carried out. -/
def errorLine (styled : Bool) (failure : RequestFailure) : String :=
  wrapped styled "\x1b[31m\x1b[1m" "error:" ++ s!" {failure.message}\n"

theorem renderAll_failure (styled : Bool) (failure : Option RequestFailure) :
    Span.renderAll styled (failure.toList.flatMap RequestFailure.spans) =
      (failure.map (errorLine styled)).getD "" := by
  have label := @render_eq_wrapped (.bold .red) "\x1b[31m\x1b[1m" (by decide) (by decide) styled
  cases failure with
  | none => rfl
  | some failure =>
      simp [RequestFailure.spans, label, errorLine]

/-! ### Lines -/

/-- The line of an event with the name of its level in style or not, and with the control
functions in its text or without them; without them nothing has a style. -/
def logLine (styled controls : Bool) (event : Event) : String :=
  let text := s!" {event.message}\n"
  if controls then
    levelText styled event.level ++ text
  else
    levelText false event.level ++ String.ofList (Text.withoutControls text.toList)

/-- The lines of events without control functions in their texts differ by styles alone. -/
theorem logLine_of_isShown {event : Event}
    (visible : ∀ character ∈ event.message.toList, Text.isShown character = true)
    (styled controls : Bool) :
    logLine styled controls event =
      levelText (styled && controls) event.level ++ s!" {event.message}\n" := by
  rw [logLine]
  cases controls with
  | true => rw [if_pos rfl, Bool.and_true]
  | false =>
      have space : Text.isShown ' ' = true := by decide
      have lineEnd : Text.isShown '\n' = true := by decide
      have kept : ∀ character ∈ s!" {event.message}\n".toList, Text.isShown character = true := by
        rw [String.toList_append, String.toList_append, List.forall_mem_append,
          List.forall_mem_append]
        exact ⟨⟨List.forall_mem_singleton.mpr space, visible⟩,
          List.forall_mem_singleton.mpr lineEnd⟩
      rw [if_neg Bool.false_ne_true, Bool.and_false, Text.withoutControls_of_isShown kept,
        String.ofList_toList]

theorem renderEvent_eq_logLine (presentation : Presentation) :
    presentation.renderEvent = logLine presentation.styled presentation.controls := by
  funext event
  have line : Span.renderAll presentation.styled (eventLine event) =
      levelText presentation.styled event.level ++ s!" {event.message}\n" := by
    simp [eventLine, render_level]
  rw [Presentation.renderEvent, line, logLine]
  cases presentation.controls with
  | true => rfl
  | false =>
      rw [if_neg Bool.false_ne_true, if_neg Bool.false_ne_true, String.toList_append,
        (isComplete_levelText _ _).withoutControls_append, withoutControls_levelText,
        String.ofList_append, String.ofList_toList]

end Command
end FileConfinement
