import Daybook.Proofs.Pattern.Brackets
import Daybook.Proofs.Pattern.Scanning

/-!
Contract: where in a text its pieces stand.

Owns:
- pieces that are known by their first character, as places outside literals;
- the bracketed literals of a pattern, which are those that are read;
- the plain characters that no token can take.

Does not own: fields, whose place depends on the run that they are read in.
-/

namespace Daybook.Pattern

namespace Field

theorem isBracket_letter (field : Field) : isBracket field.letter = false := by
  cases field <;> decide

/-- A field that is read stands there with its first letter, and with others of its token. -/
theorem exists_cons_of_scan?
    {text rest : Text}
    {field : Field}
    (scanned : scan? text = some (field, rest)) :
    ∃ others, text = field.letter :: (others ++ rest) ∧ ∀ c ∈ others, c ∈ fieldLetters := by
  obtain ⟨others, token⟩ := field.exists_token_eq_cons
  have letters : ∀ c ∈ field.token, c ∈ fieldLetters := by cases field <;> decide
  refine ⟨others, ?_, fun c member => letters c (token ▸ List.mem_cons_of_mem _ member)⟩
  rw [token_append_of_scan? scanned, token, List.cons_append]

end Field

/-- The character that a piece begins with in a text. -/
def Piece.opening : Piece → Char
  | .literal _ => '['
  | .token (.field .solar _) => solarMark
  | .token (.field .gregorian field) => field.letter
  | .token .week => 'w'
  | .token .quarter => 'Q'
  | .plain c => c

namespace Opens

variable {system : CalendarSystem} {text rest : Text} {piece : Piece}

theorem head_eq
    {c : Char}
    (opens : Opens system (c :: text) piece rest) :
    c = piece.opening := by
  cases opens with
  | literal | marked | week | quarter | plain => rfl
  | field scanned =>
    obtain ⟨others, begins, -⟩ := Field.exists_cons_of_scan? scanned
    exact (List.cons.inj begins).1

/-- A character that no token has is read plainly. -/
theorem plain_of_free
    {c : Char}
    (free : c ∉ solarMark :: reserved)
    (rest : Text) :
    Opens system (c :: rest) (.plain c) rest := by
  obtain ⟨notMark, notReserved⟩ := List.ne_and_not_mem_of_not_mem_cons free
  have noField : Field.scan? (c :: rest) = none := by
    refine Field.scan?_eq_none fun letter member same => ?_
    exact not_mem_fieldLetters_of_not_mem_reserved notReserved (Option.some.inj same ▸ member)
  have others : ∀ d ∈ reserved, c ≠ d := fun d member => (ne_of_mem_of_not_mem member notReserved).symm
  exact .plain (fun same => absurd same (others '[' (by decide)))
    (fun _ isMark => absurd isMark notMark) noField (others 'Q' (by decide))
    fun same => absurd same (others 'w' (by decide))

theorem piece_eq
    (opens : Opens system text piece rest)
    {other : Piece}
    {restOther : Text}
    (opensOther : Opens system text other restOther) :
    piece = other := by
  have same := opens.pieces_eq.symm.trans opensOther.pieces_eq
  exact (List.cons.inj same).1

end Opens

/-! ### Pieces known by their first character -/

/-- Where the first character of a piece decides whether the piece is sought, the pieces that are
sought are the places outside literals where such a character stands.  The letters of fields and
weeks do not decide that, since they stand within tokens as well. -/
theorem exists_piece_iff_occurs
    {system : CalendarSystem}
    {sought : Piece → Prop}
    {wanted : Char → Text → Prop}
    (decides : ∀ {c tail piece rest},
      Opens system (c :: tail) piece rest → (sought piece ↔ wanted c tail))
    (spared : ∀ c ∈ ']' :: 'w' :: fieldLetters, ∀ after, ¬ wanted c after)
    (isOpen : Bool)
    {text : Text}
    (unclosed : isOpen = true → ']' ∉ text) :
    (∃ piece ∈ pieces system text, sought piece) ↔
      Occurs (fun _ _ => ()) (fun _ => wanted) () isOpen text := by
  induction text using Opens.induction system generalizing isOpen with
  | nil =>
    rw [pieces]
    exact iff_of_false (by simp) not_occurs_nil
  | opens text piece rest opens inductionHypothesis =>
    have joins : ∀ {c tail} (isOpenBehind : Bool), text = c :: tail →
        (isOpenBehind = true → ']' ∉ rest) →
        (Occurs (fun _ _ => ()) (fun _ => wanted) () (openBehind isOpen c) tail ↔
          Occurs (fun _ _ => ()) (fun _ => wanted) () isOpenBehind rest) →
        ((∃ piece ∈ pieces system text, sought piece) ↔
          Occurs (fun _ _ => ()) (fun _ => wanted) () isOpen text) := by
      rintro c tail isOpenBehind rfl unclosedBehind later
      have outside : ¬ (isOpen = true ∧ ']' ∈ tail) := fun both =>
        unclosed both.1 (List.mem_cons_of_mem c both.2)
      rw [opens.pieces_eq, List.exists_mem_cons_iff, occurs_cons, and_iff_right outside,
        decides opens, later, inductionHypothesis isOpenBehind unclosedBehind]
    -- What is left of a token has neither brackets nor wanted characters.
    have skips : ∀ {c} (token : Text), text = c :: (token ++ rest) → isBracket c = false →
        (∀ d ∈ token, d ∈ 'w' :: fieldLetters) →
        ((∃ piece ∈ pieces system text, sought piece) ↔
          Occurs (fun _ _ => ()) (fun _ => wanted) () isOpen text) := by
      rintro c token rfl flatHere letters
      have flat : ∀ d ∈ token, isBracket d = false := by
        intro d member
        have table : ∀ letter ∈ 'w' :: fieldLetters, isBracket letter = false := by decide
        exact table d (letters d member)
      have unwanted : ∀ d ∈ token, ∀ (_ : Unit) after, ¬ wanted d after := fun d member _ =>
        spared d (List.mem_cons_of_mem ']' (letters d member))
      refine joins isOpen rfl (fun remains member => unclosed remains (by simp [member])) ?_
      rw [openBehind_of_isBracket flatHere, occurs_append_unwanted flat unwanted]
    cases opens with
    | @literal inner _ closing =>
      have isClosed : isOpen = false := Bool.eq_false_iff.2 fun remains =>
        unclosed remains (by simp)
      subst isClosed
      exact joins false rfl (by simp)
        (occurs_inside closing fun _ => spared ']' List.mem_cons_self)
    | @marked _ _ field _ scanned =>
      obtain ⟨others, rfl, letters⟩ := Field.exists_cons_of_scan? scanned
      refine skips (field.letter :: others) rfl (by decide) ?_
      simpa using ⟨.inr field.letter_mem_fieldLetters, fun d member => .inr (letters d member)⟩
    | @field _ _ field scanned =>
      obtain ⟨others, rfl, letters⟩ := Field.exists_cons_of_scan? scanned
      exact skips others rfl field.isBracket_letter fun d member =>
        List.mem_cons_of_mem 'w' (letters d member)
    | week => exact skips ['w'] rfl (by decide) (by decide)
    | quarter => exact skips [] rfl (by decide) (by simp)
    | @plain c _ unclosedHere _ _ _ _ =>
      exact joins (openBehind isOpen c) rfl (not_mem_of_openBehind unclosed unclosedHere) Iff.rfl

/-! ### Literals -/

/-- Whether a text is what a bracketed literal of a pattern holds.  It reaches from an opening
bracket outside literals to the first closing one. -/
def IsLiteral (pattern inner : Text) : Prop :=
  ∃ before after, pattern = before ++ '[' :: (inner ++ ']' :: after) ∧
    openAfter false before = false ∧ ']' ∉ inner

/-- Whether a text begins with what a literal holds, and with its closing bracket. -/
def ClosesAfter (inner text : Text) : Prop :=
  ∃ after, text = inner ++ ']' :: after ∧ ']' ∉ inner

theorem ClosesAfter.closing_mem
    {inner text : Text}
    (closes : ClosesAfter inner text) :
    ']' ∈ text := by
  obtain ⟨after, rfl, -⟩ := closes
  exact List.mem_append_right inner List.mem_cons_self

theorem isLiteral_iff_occurs (pattern inner : Text) :
    IsLiteral pattern inner ↔
      Occurs (fun _ _ => ()) (fun _ c after => c = '[' ∧ ClosesAfter inner after) () false
        pattern := by
  constructor
  · rintro ⟨before, after, equal, outside, closing⟩
    refine ⟨before, '[', _, equal, ?_, rfl, after, rfl, closing⟩
    rintro ⟨inside, -⟩
    rw [outside] at inside
    cases inside
  · rintro ⟨before, _, _, equal, outside, rfl, closes⟩
    have closed : openAfter false before = false :=
      Bool.eq_false_iff.2 fun inside => outside ⟨inside, closes.closing_mem⟩
    obtain ⟨after, rfl, closing⟩ := closes
    exact ⟨before, after, equal, closed, closing⟩

/-- What is read as a literal is what the literals of a pattern hold. -/
theorem literal_mem_pieces_iff
    (system : CalendarSystem)
    (pattern inner : Text) :
    .literal inner ∈ pieces system pattern ↔ IsLiteral pattern inner := by
  have decides : ∀ {c tail piece rest}, Opens system (c :: tail) piece rest →
      (piece = .literal inner ↔ c = '[' ∧ ClosesAfter inner tail) := by
    intro c tail piece rest opens
    constructor
    · rintro rfl
      cases opens with
      | literal closing => exact ⟨rfl, _, rfl, closing⟩
    · rintro ⟨rfl, after, rfl, closing⟩
      exact opens.piece_eq (.literal closing)
  rw [isLiteral_iff_occurs, ← exists_piece_iff_occurs decides (by simp [fieldLetters]) false
    (by simp)]
  simp

/-! ### Single characters -/

/-- A character that always stands for one and the same piece, and that no other token has, makes
that piece wherever it stands outside literals. -/
theorem mem_pieces_iff_of_alone
    {system : CalendarSystem}
    {c : Char}
    {found : Piece}
    (alone : ∀ rest, Opens system (c :: rest) found rest)
    (free : c ∉ ']' :: 'w' :: fieldLetters)
    (isOpen : Bool)
    {text : Text}
    (unclosed : isOpen = true → ']' ∉ text) :
    found ∈ pieces system text ↔
      Occurs (fun _ _ => ()) (fun _ d _ => d = c) () isOpen text := by
  have decides : ∀ {d tail piece rest}, Opens system (d :: tail) piece rest →
      (piece = found ↔ d = c) := by
    intro d tail piece rest opens
    constructor
    · rintro rfl
      exact opens.head_eq.trans (alone []).head_eq.symm
    · rintro rfl
      exact opens.piece_eq (alone tail)
  have spared : ∀ d ∈ ']' :: 'w' :: fieldLetters, ∀ _ : Text, d ≠ c := by
    rintro d member - rfl
    exact free member
  rw [← exists_piece_iff_occurs decides spared isOpen unclosed]
  simp

end Daybook.Pattern
