import Daybook.Pattern.Rendering
import Daybook.Proofs.Pattern.Spelling
import Daybook.Proofs.Text.Numeral

/-!
Contract: a prepared and rendered pattern says what its segments say.

Owns:
- the piece at the head of a text: literal, field, week, quarter or plain character;
- the pieces of a prepared row of segments;
- the text of such a row for a date.

Does not own: the choice of the date, or patterns that are no well-formed rows.
-/

namespace Daybook

namespace Pattern

/-! ### The piece at the head of a text -/

theorem pieces_cons
    {system : CalendarSystem}
    {c : Char}
    {rest after : Text}
    {piece : Piece}
    (first : Piece.next system c rest = (piece, after)) :
    pieces system (c :: rest) = piece :: pieces system after := by
  rw [pieces, first]

theorem untilClosing?_append
    {inner : Text}
    (rest : Text)
    (closing : ']' ∉ inner) :
    untilClosing? (inner ++ ']' :: rest) = some (inner, rest) := by
  induction inner with
  | nil => rfl
  | cons c inner inductionHypothesis =>
    have parts := List.ne_and_not_mem_of_not_mem_cons closing
    rw [List.cons_append, untilClosing?, if_neg (Ne.symm parts.1), inductionHypothesis parts.2]
    rfl

theorem pieces_literal
    (system : CalendarSystem)
    {inner : Text}
    (rest : Text)
    (closing : ']' ∉ inner) :
    pieces system ('[' :: (inner ++ ']' :: rest)) = .literal inner :: pieces system rest := by
  apply pieces_cons
  rw [Piece.next, Piece.literal?, untilClosing?_append rest closing]

theorem literal?_eq_none
    {c : Char}
    (other : c ≠ '[')
    (rest : Text) :
    Piece.literal? (c :: rest) = none := by
  unfold Piece.literal?
  split
  · rename_i same
    exact absurd (List.cons.inj same).1 other
  · rfl

namespace Field

/-- A field token is scanned as such, unless its letter goes on after it. -/
theorem scan?_token
    (field : Field)
    {rest : Text}
    (stops : rest.head? ≠ some field.letter) :
    scan? (field.token ++ rest) = some (field, rest) := by
  cases rest with
  | nil => cases field <;> rfl
  | cons c rest =>
    have other : c ≠ field.letter := fun same => stops (congrArg some same)
    cases field <;> simp_all [scan?, token, size, letter]

theorem scan?_eq_none
    {text : Text}
    (other : ∀ letter ∈ fieldLetters, text.head? ≠ some letter) :
    scan? text = none := by
  unfold scan?
  split
  · exact absurd rfl (other 'Y' (by decide))
  · exact absurd rfl (other 'M' (by decide))
  · exact absurd rfl (other 'M' (by decide))
  · exact absurd rfl (other 'M' (by decide))
  · exact absurd rfl (other 'D' (by decide))
  · exact absurd rfl (other 'D' (by decide))
  · rfl

theorem exists_token_eq_cons (field : Field) : ∃ others, field.token = field.letter :: others := by
  cases field <;> exact ⟨_, rfl⟩

end Field

/-- A field in the spelling of its calendar is read as that field. -/
theorem pieces_field
    (system : CalendarSystem)
    (field : Field)
    {rest : Text}
    (stops : rest.head? ≠ some field.letter) :
    pieces system (Symbol.marked system (.field field) ++ rest) =
      .token (.field system field) :: pieces system rest := by
  have scanned := field.scan?_token stops
  cases system with
  | solar =>
    show pieces .solar (solarMark :: (field.token ++ rest)) = _
    apply pieces_cons
    rw [Piece.next, literal?_eq_none (by decide), Piece.markedField?, if_pos rfl, scanned]
  | gregorian =>
    obtain ⟨others, opens⟩ := field.exists_token_eq_cons
    have notOpening : field.letter ≠ '[' := by cases field <;> decide
    show pieces .gregorian (field.token ++ rest) = _
    rw [opens, List.cons_append] at scanned ⊢
    apply pieces_cons
    rw [Piece.next, literal?_eq_none notOpening, Piece.markedField?, scanned]

theorem pieces_week
    (system : CalendarSystem)
    (rest : Text) :
    pieces system ('w' :: 'w' :: rest) = .token .week :: pieces system rest := by
  apply pieces_cons
  cases system <;> rfl

theorem pieces_quarter
    (system : CalendarSystem)
    (rest : Text) :
    pieces system ('Q' :: rest) = .token .quarter :: pieces system rest := by
  apply pieces_cons
  cases system <;> rfl

theorem ordinal?_eq_none
    {c : Char}
    (free : c ∉ reserved)
    (rest : Text) :
    Piece.ordinal? (c :: rest) = none := by
  unfold Piece.ordinal?
  split
  · rename_i same
    exact absurd ((List.cons.inj same).1 ▸ by decide) free
  · rename_i same
    exact absurd ((List.cons.inj same).1 ▸ by decide) free
  · rfl

/-- A character without a meaning is plain, also the mark if no field follows it. -/
theorem pieces_plain
    {system : CalendarSystem}
    {c : Char}
    {rest : Text}
    (free : c ∉ reserved)
    (unmarked : system = .solar → ∀ letter ∈ fieldLetters, rest.head? ≠ some letter) :
    pieces system (c :: rest) = .plain c :: pieces system rest := by
  have notOpening : c ≠ '[' := by
    rintro rfl
    exact absurd (by decide) free
  have noField : Field.scan? (c :: rest) = none := by
    apply Field.scan?_eq_none
    intro letter member same
    exact not_mem_fieldLetters_of_not_mem_reserved free (Option.some.inj same ▸ member)
  have noMarked : Piece.markedField? system (c :: rest) = none := by
    cases system with
    | gregorian => rfl
    | solar =>
      rw [Piece.markedField?, Field.scan?_eq_none (unmarked rfl), ite_self]
  apply pieces_cons
  rw [Piece.next, literal?_eq_none notOpening, noMarked, noField, ordinal?_eq_none free]

/-- So is a whole text of such characters. -/
theorem pieces_append_plain
    {system : CalendarSystem}
    {text : Text}
    (rest : Text)
    (free : ∀ c ∈ text, c ∉ reserved)
    (unmarked : system = .solar → ∀ letter ∈ fieldLetters, rest.head? ≠ some letter) :
    pieces system (text ++ rest) = text.map .plain ++ pieces system rest := by
  induction text with
  | nil => rfl
  | cons c text inductionHypothesis =>
    have remaining := inductionHypothesis fun other member =>
      free other (List.mem_cons_of_mem c member)
    have headFree : system = .solar →
        ∀ letter ∈ fieldLetters, (text ++ rest).head? ≠ some letter := by
      intro isSolar letter member
      cases text with
      | nil => exact unmarked isSolar letter member
      | cons next text =>
        intro same
        have equal : next = letter := Option.some.inj same
        exact not_mem_fieldLetters_of_not_mem_reserved (free next (by simp)) (equal ▸ member)
    rw [List.cons_append, pieces_plain (free c List.mem_cons_self) headFree, remaining,
      List.map_cons, List.cons_append]

/-! ### The pieces of a row -/

namespace Symbol

/-- The pieces that a token comes to. -/
def pieces (system : CalendarSystem) (quarter : Option Int) : Symbol → List Piece
  | .field found => [.token (.field system found)]
  | .week => [.token .week]
  | .quarter =>
    match quarter with
    | some given => (Text.ofInt given).map .plain
    | none => [.token .quarter]

end Symbol

namespace Segment

def pieces (system : CalendarSystem) (quarter : Option Int) : Segment → List Piece
  | .symbol found => found.pieces system quarter
  | .literal inner => [.literal inner]
  | .plain text => text.map .plain

end Segment

theorem not_mem_reserved_of_mem_ofInt
    {n : Int}
    {c : Char}
    (member : c ∈ Text.ofInt n) :
    c ∉ reserved :=
  Text.not_mem_of_mem_ofInt (by decide) member

/-- A prepared row opens with the letter of a field only in the Gregorian calendar, and there not
after that letter. -/
theorem head?_prepared_ne
    {system : CalendarSystem}
    {before : Option Char}
    {layout : Layout}
    {letter : Char}
    (quarter : Option Int)
    (readable : Readable system before layout)
    (isField : letter ∈ fieldLetters)
    (apart : system = .solar ∨ before = some letter) :
    (layout.spelled (Symbol.prepared system quarter)).head? ≠ some letter := by
  have others : ∀ c ∈ ['s', 'w', 'Q', '['], c ≠ letter := by
    intro c listed same
    have disjoint : ∀ other ∈ ['s', 'w', 'Q', '['], other ∉ fieldLetters := by decide
    exact disjoint c listed (same ▸ isField)
  have notPlain : ∀ {text : Text} (rest : Text), text ≠ [] → (∀ c ∈ text, c ∉ reserved) →
      (text ++ rest).head? ≠ some letter := by
    intro text rest nonempty free same
    obtain ⟨first, following, rfl⟩ := List.exists_cons_of_ne_nil nonempty
    have equal : first = letter := Option.some.inj same
    exact not_mem_fieldLetters_of_not_mem_reserved (free first List.mem_cons_self)
      (equal ▸ isField)
  cases readable with
  | nil => simp
  | @symbol _ found rest apartFromLetter =>
    intro same
    rcases found with (field | _ | _)
    · cases system with
      | solar => exact others 's' (by decide) (Option.some.inj same)
      | gregorian =>
        obtain ⟨following, opens⟩ := field.exists_token_eq_cons
        rw [Layout.spelled_symbol, Symbol.prepared, Symbol.marked, opens] at same
        rcases apart with impossible | here
        · cases impossible
        · exact apartFromLetter (here.trans same.symm)
    · exact others 'w' (by decide) (Option.some.inj same)
    · cases quarter with
      | some given =>
        exact notPlain _ (Text.ofInt_ne_nil given) (fun _ => not_mem_reserved_of_mem_ofInt) same
      | none => exact others 'Q' (by decide) (Option.some.inj same)
  | literal =>
    intro same
    exact others '[' (by decide) (Option.some.inj same)
  | plain sound => exact notPlain _ sound.1 sound.2

theorem head?_prepared_ne_of_solar
    {system : CalendarSystem}
    {before : Option Char}
    {layout : Layout}
    (quarter : Option Int)
    (readable : Readable system before layout)
    (isSolar : system = .solar)
    (letter : Char)
    (isField : letter ∈ fieldLetters) :
    (layout.spelled (Symbol.prepared system quarter)).head? ≠ some letter :=
  head?_prepared_ne quarter readable isField (.inl isSolar)

/-- A prepared row is read segment by segment. -/
theorem pieces_spelled
    {system : CalendarSystem}
    {before : Option Char}
    {layout : Layout}
    (quarter : Option Int)
    (readable : Readable system before layout) :
    pieces system (layout.spelled (Symbol.prepared system quarter)) =
      layout.flatMap (Segment.pieces system quarter) := by
  induction readable with
  | nil => rw [Layout.spelled_nil, pieces, List.flatMap_nil]
  | @symbol before found rest apart unmarked following inductionHypothesis =>
    rw [Layout.spelled_symbol, List.flatMap_cons, Segment.pieces, ← inductionHypothesis]
    rcases found with (field | _ | _)
    · have member : field.letter ∈ fieldLetters := by cases field <;> decide
      exact pieces_field system field (head?_prepared_ne quarter following member (.inr rfl))
    · exact pieces_week system _
    · cases quarter with
      | some given =>
        exact pieces_append_plain _ (fun _ => not_mem_reserved_of_mem_ofInt)
          (head?_prepared_ne_of_solar (some given) following)
      | none => exact pieces_quarter system _
  | @literal before inner rest sound following inductionHypothesis =>
    rw [Layout.spelled_literal, List.flatMap_cons, pieces_literal system _ sound.2.1,
      inductionHypothesis]
    rfl
  | @plain before text rest sound following inductionHypothesis =>
    rw [Layout.spelled_plain, List.flatMap_cons,
      pieces_append_plain _ sound.2 (head?_prepared_ne_of_solar quarter following),
      inductionHypothesis]
    rfl

end Pattern

/-! ### The text of a row -/

namespace Date

open Pattern

theorem piecesText_append
    (locale : Locale)
    (date : Date)
    (first second : List Piece) :
    date.piecesText locale (first ++ second) = (do
      let opening ← date.piecesText locale first
      let following ← date.piecesText locale second
      pure (opening ++ following)) := by
  induction first with
  | nil =>
    rw [List.nil_append]
    cases date.piecesText locale second <;> rfl
  | cons piece first inductionHypothesis =>
    rw [List.cons_append, piecesText, piecesText, inductionHypothesis]
    cases date.pieceText locale piece with
    | error fault => rfl
    | ok text =>
      cases date.piecesText locale first with
      | error fault => rfl
      | ok opening =>
        cases date.piecesText locale second with
        | error fault => rfl
        | ok following => exact congrArg Except.ok (List.append_assoc text opening following).symm

theorem piecesText_plain
    (locale : Locale)
    (date : Date)
    (text : Text) :
    date.piecesText locale (text.map .plain) = .ok text := by
  induction text with
  | nil => rfl
  | cons c text inductionHypothesis =>
    rw [List.map_cons, piecesText, inductionHypothesis]
    rfl

theorem piecesText_singleton
    (locale : Locale)
    (date : Date)
    (piece : Piece) :
    date.piecesText locale [piece] = date.pieceText locale piece := by
  rw [piecesText, piecesText]
  cases date.pieceText locale piece with
  | error fault => rfl
  | ok text => exact congrArg Except.ok (List.append_nil text)

/-- The pieces of a segment say what the segment says. -/
theorem piecesText_segment
    (locale : Locale)
    (date : Date)
    (quarter : Option Int)
    (segment : Segment) :
    date.piecesText locale (segment.pieces date.system quarter) =
      segment.text locale date quarter := by
  cases segment with
  | symbol found =>
    cases found with
    | field field =>
      rw [Segment.pieces, Symbol.pieces, piecesText_singleton]
      cases field <;> rfl
    | week =>
      rw [Segment.pieces, Symbol.pieces, piecesText_singleton]
      rfl
    | quarter =>
      cases quarter with
      | some given => exact piecesText_plain locale date _
      | none =>
        rw [Segment.pieces, Symbol.pieces, piecesText_singleton, Segment.text, Symbol.text,
          pieceText, tokenText, Date.quarter]
        cases date.fields <;> rfl
  | literal inner =>
    rw [Segment.pieces, piecesText_singleton]
    rfl
  | plain text => exact piecesText_plain locale date text

/-- Preparing and rendering the pattern of a well-formed row gives the text of its segments. -/
theorem render_prepare_source
    (locale : Locale)
    (date : Date)
    (quarter : Option Int)
    {layout : Layout}
    (wellFormed : layout.WellFormed date.system) :
    date.render locale (prepare date.system quarter layout.source) =
      layout.text locale date quarter := by
  rw [render, prepare_source quarter wellFormed, pieces_spelled quarter wellFormed.readable]
  -- From here on nothing depends on the neighbours of a segment.
  clear wellFormed
  induction layout with
  | nil => rfl
  | cons segment rest inductionHypothesis =>
    rw [List.flatMap_cons, piecesText_append, piecesText_segment, inductionHypothesis,
      Layout.text]

end Date

end Daybook
