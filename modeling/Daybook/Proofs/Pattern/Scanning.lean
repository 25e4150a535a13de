import Daybook.Proofs.Pattern.Compilation

/-!
Contract: every way in which a text can begin, and the piece that is read there.

Owns:
- the field that is read in a run of one letter, by the length of the run;
- the relation between a text, its first piece and the text after that piece;
- the induction along the pieces of a text, and their evaluation.

Does not own: where in a text its pieces stand, or the preparation of patterns.
-/

namespace Daybook.Pattern

namespace Field

/-- The fields in the order in which their tokens are looked for. -/
def all : List Field :=
  [.year, .monthName, .paddedMonth, .month, .paddedDay, .day]

/-- The field that is read where a letter stands the given number of times. -/
def ofRun? (letter : Char) (count : Nat) : Option Field :=
  all.find? fun field => field.letter == letter && field.size ≤ count

theorem letter_mem_fieldLetters (field : Field) : field.letter ∈ fieldLetters := by
  cases field <;> decide

theorem letter_ne_solarMark (field : Field) : field.letter ≠ solarMark :=
  ne_of_mem_of_not_mem field.letter_mem_fieldLetters (by decide)

theorem ofRun?_eq_none
    {c : Char}
    (other : c ∉ fieldLetters)
    (count : Nat) :
    ofRun? c count = none := by
  rw [ofRun?, List.find?_eq_none]
  intro field _ fits
  have same : field.letter = c := by
    rw [Bool.and_eq_true, beq_iff_eq] at fits
    exact fits.1
  exact other (same ▸ field.letter_mem_fieldLetters)

/-- A field takes its token away from a run, and the rest of the run stays. -/
theorem scan?_run
    {letter : Char}
    {count : Nat}
    {rest : Text}
    (positive : 0 < count)
    (stops : rest.head? ≠ some letter) :
    scan? (List.replicate count letter ++ rest) =
      (ofRun? letter count).map fun field =>
        (field, List.replicate (count - field.size) letter ++ rest) := by
  by_cases isField : letter ∈ fieldLetters
  · simp only [fieldLetters, List.mem_cons, List.not_mem_nil, or_false] at isField
    rcases isField with rfl | rfl | rfl
    all_goals
      rcases count with _ | _ | _ | _ | more
      · exact absurd positive (Nat.lt_irrefl 0)
      -- In runs shorter than the longest token, the text after the run decides as well.
      · cases rest <;> simp_all [scan?, ofRun?, all, size, Field.letter]
      · cases rest <;> simp_all [scan?, ofRun?, all, size, Field.letter, List.replicate_succ]
      · cases rest <;> simp_all [scan?, ofRun?, all, size, Field.letter, List.replicate_succ]
      · simp [scan?, ofRun?, all, size, Field.letter, List.replicate_succ]
  · obtain ⟨more, rfl⟩ := Nat.exists_eq_succ_of_ne_zero (Nat.ne_of_gt positive)
    rw [ofRun?_eq_none isField]
    refine scan?_eq_none ?_
    intro other member same
    exact isField (Option.some.inj same ▸ member)

theorem token_append_of_scan?
    {text rest : Text}
    {field : Field}
    (scanned : scan? text = some (field, rest)) :
    text = field.token ++ rest := by
  unfold scan? at scanned
  split at scanned <;> cases scanned <;> rfl

/-- A field that is read stands at the head of a run that has room for it. -/
theorem exists_run_of_scan?
    {text rest : Text}
    {field : Field}
    (scanned : scan? text = some (field, rest)) :
    ∃ count after, text = List.replicate (count + 1) field.letter ++ after ∧
      after.head? ≠ some field.letter ∧ ofRun? field.letter (count + 1) = some field ∧
      rest = List.replicate (count + 1 - field.size) field.letter ++ after := by
  obtain ⟨others, token⟩ := field.exists_token_eq_cons
  have begins := token_append_of_scan? scanned
  rw [token, List.cons_append] at begins
  obtain ⟨after, equal, stops⟩ := exists_run field.letter text
  rw [begins, runLength_cons_self, ← begins] at equal
  have room := scan?_run (Nat.succ_pos (runLength field.letter (others ++ rest))) stops
  rw [Nat.succ_eq_add_one, ← equal, scanned] at room
  obtain ⟨found, fits, same⟩ := Option.map_eq_some_iff.1 room.symm
  obtain ⟨rfl, remains⟩ := Prod.mk.inj same
  exact ⟨_, after, equal, stops, fits, remains.symm⟩

end Field

theorem eq_append_of_untilClosing?
    {text inner rest : Text}
    (closed : untilClosing? text = some (inner, rest)) :
    text = inner ++ ']' :: rest ∧ ']' ∉ inner := by
  induction text generalizing inner with
  | nil => cases closed
  | cons c following inductionHypothesis =>
    unfold untilClosing? at closed
    split at closed
    · rename_i closing
      cases closed
      exact ⟨congrArg (· :: rest) closing, List.not_mem_nil⟩
    · rename_i other
      obtain ⟨⟨tail, after⟩, tailClosed, equal⟩ := Option.map_eq_some_iff.1 closed
      cases equal
      obtain ⟨rfl, without⟩ := inductionHypothesis tailClosed
      exact ⟨rfl, List.not_mem_cons_of_ne_of_not_mem (Ne.symm other) without⟩

theorem not_mem_of_untilClosing?
    {text : Text}
    (unclosed : untilClosing? text = none) :
    ']' ∉ text := by
  induction text with
  | nil => exact List.not_mem_nil
  | cons c following inductionHypothesis =>
    unfold untilClosing? at unclosed
    split at unclosed
    · cases unclosed
    · rename_i other
      have without := inductionHypothesis (Option.map_eq_none_iff.1 unclosed)
      exact List.not_mem_cons_of_ne_of_not_mem (Ne.symm other) without

theorem untilClosing?_eq_none
    {text : Text}
    (unclosed : ']' ∉ text) :
    untilClosing? text = none := by
  cases found : untilClosing? text with
  | none => rfl
  | some closed =>
    obtain ⟨rfl, -⟩ := eq_append_of_untilClosing? found
    simp at unclosed

/-- A text begins with a piece, and another text is left after it. -/
inductive Opens (system : CalendarSystem) : Text → Piece → Text → Prop where
  | literal
      {inner rest : Text}
      (closing : ']' ∉ inner) :
      Opens system ('[' :: (inner ++ ']' :: rest)) (.literal inner) rest
  | marked
      {text rest : Text}
      {field : Field}
      (isSolar : system = .solar)
      (scanned : Field.scan? text = some (field, rest)) :
      Opens system (solarMark :: text) (.token (.field .solar field)) rest
  | field
      {text rest : Text}
      {field : Field}
      (scanned : Field.scan? text = some (field, rest)) :
      Opens system text (.token (.field .gregorian field)) rest
  | week
      {rest : Text} :
      Opens system ('w' :: 'w' :: rest) (.token .week) rest
  | quarter
      {rest : Text} :
      Opens system ('Q' :: rest) (.token .quarter) rest
  | plain
      {c : Char}
      {rest : Text}
      (unclosed : c = '[' → ']' ∉ rest)
      (unmarked : system = .solar → c = solarMark → Field.scan? rest = none)
      (noField : Field.scan? (c :: rest) = none)
      (notQuarter : c ≠ 'Q')
      (notWeek : c = 'w' → rest.head? ≠ some 'w') :
      Opens system (c :: rest) (.plain c) rest

namespace Opens

variable {system : CalendarSystem}

/-- Every text that is not empty begins with the piece that is read next. -/
theorem next
    (system : CalendarSystem)
    (c : Char)
    (rest : Text) :
    Opens system (c :: rest) (Piece.next system c rest).1 (Piece.next system c rest).2 := by
  unfold Piece.next
  split
  · rename_i inner after found
    unfold Piece.literal? at found
    split at found
    · rename_i following equal
      cases equal
      obtain ⟨rfl, closing⟩ := eq_append_of_untilClosing? found
      exact .literal closing
    · cases found
  · rename_i notLiteral
    have unclosed : c = '[' → ']' ∉ rest := by
      rintro rfl
      exact not_mem_of_untilClosing? notLiteral
    split
    · rename_i field after found
      unfold Piece.markedField? at found
      cases system with
      | gregorian => cases found
      | solar =>
        obtain ⟨isMark, scanned⟩ := Option.ite_none_right_eq_some.1 found
        subst isMark
        exact .marked rfl scanned
    · rename_i notMarked
      split
      · rename_i field after found
        exact .field found
      · rename_i noField
        split
        · rename_i ordinal after found
          unfold Piece.ordinal? at found
          split at found
          · rename_i equal
            cases equal
            cases found
            exact .week
          · rename_i equal
            cases equal
            cases found
            exact .quarter
          · cases found
        · rename_i notOrdinal
          refine .plain unclosed ?_ noField ?_ ?_
          · rintro rfl rfl
            exact notMarked
          · rintro rfl
            cases notOrdinal
          · rintro rfl follows
            obtain ⟨after, rfl⟩ := List.head?_eq_some_iff.1 follows
            cases notOrdinal

/-- The first piece of a text is the one that it begins with. -/
theorem pieces_eq
    {text rest : Text}
    {piece : Piece}
    (opens : Opens system text piece rest) :
    pieces system text = piece :: pieces system rest := by
  cases opens with
  | literal closing => exact pieces_literal system rest closing
  | @marked following _ field isSolar scanned =>
    subst isSolar
    apply pieces_cons
    rw [Piece.next, literal?_eq_none (by decide), Piece.markedField?, if_pos rfl, scanned]
  | @field _ _ field scanned =>
    obtain ⟨others, token⟩ := field.exists_token_eq_cons
    have notOpening : field.letter ≠ '[' :=
      ne_of_mem_of_not_mem field.letter_mem_fieldLetters (by decide)
    have noMarked : ∀ following, Piece.markedField? system (field.letter :: following) = none := by
      intro following
      cases system with
      | gregorian => rfl
      | solar => rw [Piece.markedField?, if_neg field.letter_ne_solarMark]
    have begins := Field.token_append_of_scan? scanned
    rw [token, List.cons_append] at begins
    subst begins
    apply pieces_cons
    rw [Piece.next, literal?_eq_none notOpening, noMarked, scanned]
  | week => exact pieces_week system rest
  | quarter => exact pieces_quarter system rest
  | @plain c _ unclosed unmarked noField notQuarter notWeek =>
    have noLiteral : Piece.literal? (c :: rest) = none := by
      by_cases opening : c = '['
      · subst opening
        exact untilClosing?_eq_none (unclosed rfl)
      · exact literal?_eq_none opening rest
    have noMarked : Piece.markedField? system (c :: rest) = none := by
      cases system with
      | gregorian => rfl
      | solar =>
        by_cases isMark : c = solarMark
        · rw [Piece.markedField?, if_pos isMark, unmarked rfl isMark]
        · rw [Piece.markedField?, if_neg isMark]
    have noOrdinal : Piece.ordinal? (c :: rest) = none := by
      unfold Piece.ordinal?
      split
      · rename_i equal
        cases equal
        exact absurd rfl (notWeek rfl)
      · rename_i equal
        cases equal
        exact absurd rfl notQuarter
      · rfl
    apply pieces_cons
    rw [Piece.next, noLiteral, noMarked, noField, noOrdinal]

/-- A piece takes the beginning of a text away. -/
theorem exists_append
    {text rest : Text}
    {piece : Piece}
    (opens : Opens system text piece rest) :
    ∃ taken, text = taken ++ rest := by
  cases opens with
  | @literal inner _ _ => exact ⟨'[' :: (inner ++ [']']), by simp⟩
  | @marked _ _ field _ scanned =>
    exact ⟨solarMark :: field.token, congrArg (_ :: ·) (Field.token_append_of_scan? scanned)⟩
  | @field _ _ field scanned => exact ⟨field.token, Field.token_append_of_scan? scanned⟩
  | week => exact ⟨['w', 'w'], rfl⟩
  | quarter => exact ⟨['Q'], rfl⟩
  | @plain c => exact ⟨[c], rfl⟩

/-- What holds of the empty text, and of a text if it holds after the first piece, holds of all
texts. -/
@[elab_as_elim]
theorem induction
    (system : CalendarSystem)
    {motive : Text → Prop}
    (nil : motive [])
    (opens : ∀ text piece rest, Opens system text piece rest → motive rest → motive text)
    (text : Text) :
    motive text := by
  induction text using pieces.induct system with
  | case1 => exact nil
  | case2 c rest inductionHypothesis =>
    exact opens _ _ _ (Opens.next system c rest) inductionHypothesis

end Opens

/-! ### Evaluation -/

/-- The first pieces of a text, as many as the bound allows. -/
def piecesWithin (system : CalendarSystem) : Nat → Text → List Piece
  | 0, _ => []
  | _, [] => []
  | bound + 1, c :: rest =>
    (Piece.next system c rest).1 :: piecesWithin system bound (Piece.next system c rest).2

/-- The length of a text is bound enough, so that its pieces can be evaluated. -/
theorem pieces_eq_piecesWithin
    (system : CalendarSystem)
    (text : Text) :
    pieces system text = piecesWithin system text.length text := by
  have within : ∀ bound, text.length ≤ bound →
      pieces system text = piecesWithin system bound text := by
    induction text using pieces.induct system with
    | case1 =>
      intro bound _
      rw [pieces]
      cases bound <;> rfl
    | case2 c rest inductionHypothesis =>
      intro bound enough
      cases bound with
      | zero => cases enough
      | succ bound =>
        have shorter : (Piece.next system c rest).2.length ≤ bound :=
          Nat.le_trans (Piece.length_next_le system c rest) (Nat.le_of_succ_le_succ enough)
        rw [pieces, piecesWithin, inductionHypothesis bound shorter]
  exact within text.length (Nat.le_refl _)

end Daybook.Pattern
