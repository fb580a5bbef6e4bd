import FileConfinement.Proofs.IntegerLiteral
import FileConfinement.Proofs.QuotedText

/-!
# Reading values

The readers of scalars, of values that may be missing and of lists of directives read exactly
the spellings that the format of documents allows.
-/

namespace FileConfinement
namespace Document

theorem eq_append_of_readLiteral {literal unread rest : List Char}
    (read : readLiteral literal unread = .ok rest) : unread = literal ++ rest := by
  induction literal generalizing unread with
  | nil => exact Except.ok.inj read
  | cons expected literal ih =>
      cases unread with
      | nil => simp [readLiteral] at read
      | cons character unread =>
          rw [readLiteral] at read
          split at read
          · rename_i same
            rw [same, ih read, List.cons_append]
          · simp at read

theorem reads_boolean : Reads readBoolean SpellsBoolean := by
  apply Reads.of_skipSpace
  · intro unread
    simp only [readBoolean, skipSpace_skipSpace]
  · rintro literal (_ | _) rfl
    · exact ⟨'f', ['a', 'l', 's', 'e'], rfl, by decide, by decide⟩
    · exact ⟨'t', ['r', 'u', 'e'], rfl, by decide, by decide⟩
  · rintro literal rest (_ | _) rfl ends <;> rfl
  · intro unread rest value settled accepted
    rw [readBoolean, settled] at accepted
    split at accepted
    · obtain ⟨left, word, same⟩ := map_eq_ok_iff.mp accepted
      obtain ⟨rfl, rfl⟩ := Prod.mk.inj same
      exact ⟨"true".toList, by rw [eq_append_of_readLiteral word]; rfl, rfl⟩
    · obtain ⟨left, word, same⟩ := map_eq_ok_iff.mp accepted
      obtain ⟨rfl, rfl⟩ := Prod.mk.inj same
      exact ⟨"false".toList, by rw [eq_append_of_readLiteral word]; rfl, rfl⟩
    · simp at accepted

/-- Quoted text ends with its quote, whatever follows. -/
theorem readText_append (expected : Expected) {literal text : List Char}
    (spelled : SpellsText literal text) (rest : List Char) :
    readText expected (literal ++ rest) = .ok (text, rest) := by
  obtain ⟨inner, rfl, spelled⟩ := spelled
  rw [List.cons_append, List.cons_append, List.append_assoc, List.singleton_append, readText,
    skipSpace_cons (by decide)]
  exact readQuoted_append spelled rest

theorem reads_text (expected : Expected) : Reads (readText expected) SpellsText := by
  apply Reads.of_skipSpace
  · intro unread
    simp only [readText, skipSpace_skipSpace]
  · rintro literal text ⟨inner, rfl, _⟩
    exact ⟨'"', inner ++ ['"'], rfl, by decide, by decide⟩
  · intro literal rest text spelled _
    exact readText_append expected spelled rest
  · intro unread rest text settled accepted
    rw [readText, settled] at accepted
    split at accepted
    · obtain ⟨inner, rfl, spelled⟩ := spellsChars_of_readQuoted accepted
      exact ⟨'"' :: inner ++ ['"'], by simp, inner, rfl, spelled⟩
    · simp at accepted

theorem reads_path : Reads readPath SpellsPath :=
  (reads_text .path).map Path.ofText

theorem reads_directive : Reads readDirective SpellsDirective where
  starts := by
    rintro literal directive ⟨line, spelled, _⟩
    exact (reads_text .text).starts spelled
  complete := by
    rintro space literal rest directive spaces ⟨line, spelled, accepted⟩ ends
    rw [readDirective, (reads_text .text).complete spaces spelled ends]
    simp only [accepted]
  sound := by
    intro unread rest directive accepted
    unfold readDirective at accepted
    split at accepted
    · simp at accepted
    · rename_i line left read
      split at accepted
      · rename_i isDirective
        obtain ⟨rfl, rfl⟩ := Prod.mk.inj (Except.ok.inj accepted)
        obtain ⟨space, literal, whole, spaces, spelled⟩ := (reads_text .text).sound read
        exact ⟨space, literal, whole, spaces, line, spelled, isDirective⟩
      · simp at accepted

/-- A value that may be missing is told apart from `null` by its first character. -/
theorem Reads.optional {α : Type} {read : List Char → Except Fault (α × List Char)}
    {spells : List Char → α → Prop} (reads : Reads read spells)
    (noNull : ∀ {literal value}, spells ('n' :: literal) value → False) :
    Reads (readOptional read) (SpellsOptional spells) where
  starts := by
    rintro literal (_ | value) spelled
    · exact ⟨'n', ['u', 'l', 'l'], spelled, by decide, by decide⟩
    · exact reads.starts spelled
  complete := by
    rintro space literal rest (_ | value) spaces spelled ends
    · rw [spelled, readOptional, skipSpace_append spaces]
      rfl
    · obtain ⟨first, more, rfl, visible, _⟩ := reads.starts spelled
      have read := reads.complete IsSpaces.nil spelled ends
      rw [List.nil_append, List.cons_append] at read
      rw [readOptional, skipSpace_append spaces, List.cons_append, skipSpace_cons visible]
      split
      · rename_i same
        rw [(List.cons.inj same).1] at spelled
        exact (noNull spelled).elim
      · rw [read]
        rfl
  sound := by
    intro unread rest value accepted
    obtain ⟨space, whole, spaces⟩ := exists_spaces unread
    unfold readOptional at accepted
    split at accepted
    · rename_i behind skipped
      obtain ⟨left, word, same⟩ := map_eq_ok_iff.mp accepted
      obtain ⟨rfl, rfl⟩ := Prod.mk.inj same
      rw [skipped, eq_append_of_readLiteral word] at whole
      exact ⟨space, "null".toList, whole, spaces, rfl⟩
    · obtain ⟨⟨value, left⟩, read, same⟩ := map_eq_ok_iff.mp accepted
      obtain ⟨rfl, rfl⟩ := Prod.mk.inj same
      obtain ⟨more, literal, behind, spaces', spelled⟩ := reads.sound read
      exact ⟨space ++ more, literal, by rw [List.append_assoc, ← behind, ← whole],
        spaces.append spaces', spelled⟩

theorem reads_home : Reads (readOptional readPath) (SpellsOptional SpellsPath) := by
  apply reads_path.optional
  rintro literal path ⟨text, ⟨inner, quoted, _⟩, _⟩
  simp at quoted

theorem reads_uid : Reads (readOptional readUserId) (SpellsOptional SpellsUserId) := by
  apply reads_userId.optional
  intro literal uid spelled
  obtain ⟨digit, digits, spelled', isDigit⟩ := exists_first_digit uid.toNat
  rw [SpellsUserId, spelled', List.cons.injEq] at spelled
  rw [← spelled.1] at isDigit
  simp at isDigit

/-! ### Lists -/

theorem nextElement_comma {space : List Char} (spaces : IsSpaces space) (behind : List Char) :
    nextElement false (space ++ ',' :: behind) =
      match skipSpace behind with
      | [] => .error (.before .endOfValue [])
      | ']' :: rest => .error (.past .trailingComma (']' :: rest))
      | rest => .ok (some rest) := by
  rw [nextElement, skipSpace_append spaces, skipSpace_cons (by decide)]
  rfl

theorem nextElement_append {first : Bool} {separator literal : List Char}
    (separates : Separates first separator) (starts : StartsValue literal) (rest : List Char) :
    nextElement first (separator ++ (literal ++ rest)) = .ok (some (literal ++ rest)) := by
  obtain ⟨initial, more, rfl, visible, notEnd⟩ := starts
  rw [List.cons_append]
  cases first with
  | true =>
      rw [nextElement, skipSpace_append separates, skipSpace_cons visible]
      split <;> simp_all
  | false =>
      obtain ⟨before, behind, rfl, spaces, spaces'⟩ := separates
      have skipped : skipSpace (behind ++ initial :: (more ++ rest)) =
          initial :: (more ++ rest) := by
        rw [skipSpace_append spaces', skipSpace_cons visible]
      rw [List.append_assoc, List.cons_append, nextElement_comma spaces, skipped]
      split <;> simp_all

theorem nextElement_end (first : Bool) {space : List Char} (spaces : IsSpaces space)
    (rest : List Char) : nextElement first (space ++ ']' :: rest) = .ok none := by
  rw [nextElement, skipSpace_append spaces, skipSpace_cons (by decide)]
  rfl

theorem separates_of_nextElement {first : Bool} {unread element : List Char}
    (next : nextElement first unread = .ok (some element)) :
    ∃ separator, unread = separator ++ element ∧ Separates first separator := by
  obtain ⟨space, whole, spaces⟩ := exists_spaces unread
  unfold nextElement at next
  split at next
  · simp at next
  · simp at next
  · rename_i character behind _ skipped
    rw [skipped] at whole
    split at next
    · rename_i isFirst
      obtain rfl := Option.some.inj (Except.ok.inj next)
      exact ⟨space, whole, by rw [isFirst]; exact spaces⟩
    · rename_i later
      split at next
      · rename_i comma
        obtain ⟨space', whole', spaces'⟩ := exists_spaces behind
        split at next
        · simp at next
        · simp at next
        · obtain rfl := Option.some.inj (Except.ok.inj next)
          refine ⟨space ++ ',' :: space', ?_, ?_⟩
          · rw [whole, comma, List.append_assoc, List.cons_append, ← whole']
          · rw [Bool.not_eq_true] at later
            rw [later]
            exact ⟨space, space', rfl, spaces, spaces'⟩
      · simp at next

theorem spaces_of_nextElement {first : Bool} {unread : List Char}
    (next : nextElement first unread = .ok none) :
    ∃ space rest, unread = space ++ ']' :: rest ∧ IsSpaces space := by
  obtain ⟨space, whole, spaces⟩ := exists_spaces unread
  unfold nextElement at next
  split at next
  · simp at next
  · rename_i rest skipped
    exact ⟨space, rest, by rw [whole, skipped], spaces⟩
  · split at next
    · simp at next
    · split at next
      · split at next <;> simp at next
      · simp at next

theorem endList_append {space : List Char} (spaces : IsSpaces space) (rest : List Char) :
    endList (space ++ ']' :: rest) = .ok rest := by
  rw [endList, skipSpace_append spaces, skipSpace_cons (by decide)]
  rfl

theorem spaces_of_endList {unread rest : List Char} (ended : endList unread = .ok rest) :
    ∃ space, unread = space ++ ']' :: rest ∧ IsSpaces space := by
  obtain ⟨space, whole, spaces⟩ := exists_spaces unread
  unfold endList at ended
  split at ended
  · simp at ended
  · rename_i behind skipped
    obtain rfl := Except.ok.inj ended
    exact ⟨space, by rw [whole, skipped], spaces⟩
  · split at ended <;> simp at ended
  · simp at ended

/-- A separator may be followed by more space. -/
theorem Separates.append_spaces {first : Bool} {separator space : List Char}
    (separates : Separates first separator) (spaces : IsSpaces space) :
    Separates first (separator ++ space) := by
  cases first with
  | true => exact IsSpaces.append separates spaces
  | false =>
      obtain ⟨before, behind, rfl, spaces', spaces''⟩ := separates
      exact ⟨before, behind ++ space, by simp, spaces', spaces''.append spaces⟩

/-- Behind an item stands space, a comma or the closing bracket. -/
theorem Items.endsValue {α : Type} {spells : List Char → α → Prop} {text : List Char}
    {values : List α} (items : Items spells false text values) {close : Char}
    (closes : close = ']' ∨ close = '}') (rest : List Char) :
    EndsValue (text ++ close :: rest) := by
  have behind : ∀ {space : List Char} {next : Char} {more : List Char}, IsSpaces space →
      next = ',' ∨ next = ']' ∨ next = '}' → EndsValue (space ++ next :: more) := by
    rintro (_ | ⟨blank, space⟩) next more spaces ends character same
    · obtain rfl := Option.some.inj same
      exact .inr ends
    · obtain rfl := Option.some.inj same
      exact .inl (spaces _ List.mem_cons_self)
  cases items with
  | done spaces => exact behind spaces (.inr closes)
  | item separates spelled others =>
      obtain ⟨before, after, rfl, spaces, _⟩ := separates
      simp only [List.append_assoc, List.cons_append]
      exact behind spaces (.inl rfl)

theorem readDirectives_end {first : Bool} {unread : List Char}
    (next : nextElement first unread = .ok none) :
    readDirectives first unread = .ok ([], unread) := by
  rw [readDirectives]
  split <;> simp_all

theorem readDirectives_element {first : Bool} {unread element : List Char}
    (next : nextElement first unread = .ok (some element)) :
    readDirectives first unread =
      match readDirective element with
      | .error fault => .error fault
      | .ok (directive, rest) =>
          (readDirectives false rest).map fun (queue, rest) => (directive :: queue, rest) := by
  rw [readDirectives]
  split
  · simp_all
  · simp_all
  · rename_i next'
    obtain rfl : element = _ := by simpa [next] using next'
    split
    · rename_i refused
      simp only [refused]
    · rename_i directive rest read
      simp only [read]
      cases readDirectives false rest <;> rfl

/-- All directives of a list are read up to the space in front of its closing bracket. -/
theorem readDirectives_append {first : Bool} {text : List Char} {queue : DirectiveQueue}
    (items : Items SpellsDirective first text queue) (rest : List Char) :
    ∃ space, IsSpaces space ∧
      readDirectives first (text ++ ']' :: rest) = .ok (queue, space ++ ']' :: rest) := by
  induction items with
  | @done first space spaces =>
      exact ⟨space, spaces, readDirectives_end (nextElement_end first spaces rest)⟩
  | @item first separator literal more directive queue separates spelled others ih =>
      obtain ⟨space, spaces, read⟩ := ih
      refine ⟨space, spaces, ?_⟩
      have element := reads_directive.complete IsSpaces.nil spelled
        (others.endsValue (.inl rfl) rest)
      simp only [List.append_assoc]
      rw [List.nil_append] at element
      rw [readDirectives_element (nextElement_append separates (reads_directive.starts spelled) _),
        element]
      simp only [read]
      rfl

theorem items_of_readDirectives {first : Bool} {unread behind : List Char}
    {queue : DirectiveQueue} (accepted : readDirectives first unread = .ok (queue, behind)) :
    ∃ text space rest, unread = text ++ ']' :: rest ∧ behind = space ++ ']' :: rest ∧
      IsSpaces space ∧ Items SpellsDirective first text queue := by
  fun_induction readDirectives first unread generalizing queue behind with
  | case1 => simp at accepted
  | case2 first unread next =>
      obtain ⟨rfl, rfl⟩ := Prod.mk.inj (Except.ok.inj accepted)
      obtain ⟨space, rest, whole, spaces⟩ := spaces_of_nextElement next
      exact ⟨space, space, rest, whole, whole, spaces, .done spaces⟩
  | case3 => simp at accepted
  | case4 => simp at accepted
  | case5 first unread element next directive left read shorter queue' behind' inner ih =>
      obtain ⟨rfl, rfl⟩ := Prod.mk.inj (Except.ok.inj accepted)
      obtain ⟨separator, rfl, separates⟩ := separates_of_nextElement next
      obtain ⟨blank, literal, rfl, blanks, spelled⟩ := reads_directive.sound read
      obtain ⟨text, space, rest, rfl, rfl, spaces, others⟩ := ih inner
      refine ⟨separator ++ blank ++ literal ++ text, space, rest, by simp, rfl, spaces, ?_⟩
      exact .item (separates.append_spaces blanks) spelled others

theorem reads_queue : Reads readQueue SpellsQueue := by
  apply Reads.of_skipSpace
  · intro unread
    simp only [readQueue, skipSpace_skipSpace]
  · rintro literal queue ⟨inner, rfl, _⟩
    exact ⟨'[', inner ++ [']'], rfl, by decide, by decide⟩
  · rintro literal rest queue ⟨inner, rfl, items⟩ _
    obtain ⟨space, spaces, read⟩ := readDirectives_append items rest
    rw [List.cons_append, List.cons_append, List.append_assoc, List.singleton_append, readQueue,
      skipSpace_cons (by decide)]
    exact bind_eq_ok_iff.mpr ⟨_, read, bind_eq_ok_iff.mpr ⟨rest, endList_append spaces rest, rfl⟩⟩
  · intro unread rest queue settled accepted
    rw [readQueue, settled] at accepted
    split at accepted
    · obtain ⟨⟨queue', behind⟩, read, finished⟩ := bind_eq_ok_iff.mp accepted
      obtain ⟨left, ended, same⟩ := bind_eq_ok_iff.mp finished
      obtain ⟨rfl, rfl⟩ := Prod.mk.inj (Except.ok.inj same)
      obtain ⟨text, space, rest, rfl, rfl, spaces, items⟩ := items_of_readDirectives read
      obtain rfl : rest = left := by simpa [endList_append spaces] using ended
      exact ⟨'[' :: text ++ [']'], by simp, text, rfl, items⟩
    · simp at accepted

end Document
end FileConfinement
