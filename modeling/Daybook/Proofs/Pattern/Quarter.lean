import Daybook.Calendar.Building
import Daybook.Proofs.Pattern.Places

/-!
Contract: which quarter tokens of a pattern are read once a quarter has been put in.

Owns:
- the quarter tokens that are read in a prepared pattern;
- those that the substitution leaves, by the depth of brackets around them;
- the patterns that show the quarter of the date itself although another one is given.

Does not own: the texts of other tokens.
-/

namespace Daybook

namespace Pattern

/-- Whether a text that follows an open bracket or none has a quarter token outside literals. -/
def ShowsQuarter (isOpen : Bool) (text : Text) : Prop :=
  Occurs (fun _ _ => ()) (fun _ c _ => c = 'Q') () isOpen text

/-- Whether a text that begins at a depth of brackets has a quarter token inside brackets, but
outside literals. -/
def KeepsQuarter (depth : Nat) (isOpen : Bool) (text : Text) : Prop :=
  Occurs depthBehind (fun depth c _ => c = 'Q' ∧ 0 < depth) depth isOpen text

instance (depth : Nat) (isOpen : Bool) (text : Text) :
    Decidable (KeepsQuarter depth isOpen text) :=
  decidableOccurs depth isOpen text

/-! ### Reading -/

/-- The quarter tokens that are read are those outside literals. -/
theorem quarter_mem_pieces_iff
    (system : CalendarSystem)
    (isOpen : Bool)
    {text : Text}
    (unclosed : isOpen = true → ']' ∉ text) :
    .token .quarter ∈ pieces system text ↔ ShowsQuarter isOpen text :=
  mem_pieces_iff_of_alone (fun _ => .quarter) (by decide) isOpen unclosed

/-! ### Putting a quarter in -/

private theorem showsQuarter_append
    {isOpen : Bool}
    {text : Text}
    (rest : Text)
    (unread : ∀ c ∈ text, isQuarterMarkup c = false) :
    ShowsQuarter isOpen (text ++ rest) ↔ ShowsQuarter isOpen rest := by
  have parts : ∀ c ∈ text, isBracket c = false ∧ c ≠ 'Q' := by
    intro c member
    simpa [isQuarterMarkup] using unread c member
  exact occurs_append_unwanted (fun c member => (parts c member).1)
    fun c member _ _ => (parts c member).2

/-- A substitution leaves the quarter tokens inside brackets. -/
theorem showsQuarter_substituteQuarterAt
    {digits : Text}
    (unread : ∀ c ∈ digits, isQuarterMarkup c = false)
    (depth : Nat)
    (isOpen : Bool)
    (text : Text) :
    ShowsQuarter isOpen (substituteQuarterAt digits depth text) ↔
      KeepsQuarter depth isOpen text := by
  induction text generalizing depth isOpen with
  | nil => exact iff_of_false not_occurs_nil not_occurs_nil
  | cons c rest inductionHypothesis =>
    by_cases replaced : c = 'Q' ∧ depth = 0
    · obtain ⟨rfl, rfl⟩ := replaced
      have later := inductionHypothesis 0 isOpen
      unfold KeepsQuarter at later ⊢
      rw [substituteQuarterAt_quarter, showsQuarter_append _ unread, later,
        occurs_cons_unwanted (by simp), openBehind_of_isBracket (by decide),
        depthBehind_of_isBracket (by decide)]
    · have closings := sameBrackets_substituteQuarterAt unread (depthBehind depth c) rest
      have later := inductionHypothesis (depthBehind depth c) (openBehind isOpen c)
      have sameWish : c = 'Q' ↔ c = 'Q' ∧ 0 < depth :=
        ⟨fun same => ⟨same, Nat.pos_of_ne_zero fun flat => replaced ⟨same, flat⟩⟩, And.left⟩
      unfold ShowsQuarter KeepsQuarter at later ⊢
      rw [substituteQuarterAt_cons replaced, occurs_cons, occurs_cons, later,
        closings.closing_mem_iff, ← sameWish]

/-- Whether a quarter token counts depends on the brackets before it, and on nothing else. -/
theorem occurs_quarter_filter
    {counts : Nat → Prop}
    (depth : Nat)
    (isOpen : Bool)
    (text : Text) :
    Occurs depthBehind (fun depth c _ => c = 'Q' ∧ counts depth) depth isOpen
        (text.filter isQuarterMarkup) ↔
      Occurs depthBehind (fun depth c _ => c = 'Q' ∧ counts depth) depth isOpen text := by
  induction text generalizing depth isOpen with
  | nil => exact Iff.rfl
  | cons c rest inductionHypothesis =>
    cases markup : isQuarterMarkup c with
    | true =>
      have closings : ']' ∈ rest.filter isQuarterMarkup ↔ ']' ∈ rest := by
        simp [isQuarterMarkup, isBracket]
      rw [List.filter_cons_of_pos markup, occurs_cons, occurs_cons, closings, inductionHypothesis]
    | false =>
      have parts : isBracket c = false ∧ c ≠ 'Q' := by simpa [isQuarterMarkup] using markup
      have unwanted : ¬ (c = 'Q' ∧ counts depth) := fun both => parts.2 both.1
      rw [List.filter_cons_of_neg (by simp [markup]), inductionHypothesis,
        occurs_cons_unwanted unwanted, depthBehind_of_isBracket parts.1,
        openBehind_of_isBracket parts.1]

/-- Whether a pattern has a quarter token that nested or unclosed brackets keep from the
substitution, while no literal covers it. -/
def StrayQuarter (pattern : Text) : Prop :=
  ∃ before after, pattern = before ++ 'Q' :: after ∧
    0 < depthAfter 0 before ∧ ¬ InLiteral before after

theorem strayQuarter_iff (pattern : Text) :
    StrayQuarter pattern ↔ KeepsQuarter 0 false pattern := by
  constructor
  · rintro ⟨before, after, equal, deep, outside⟩
    exact ⟨before, 'Q', after, equal, outside, rfl, deep⟩
  · rintro ⟨before, _, after, equal, outside, rfl, deep⟩
    exact ⟨before, after, equal, deep, outside⟩

instance (pattern : Text) : Decidable (StrayQuarter pattern) :=
  decidable_of_iff' _ (strayQuarter_iff pattern)

/-- Although a quarter has been put in, the stray quarter tokens of a pattern are read. -/
theorem quarter_mem_pieces_prepare_iff
    (system : CalendarSystem)
    (quarter : Int)
    (pattern : Text) :
    .token .quarter ∈ pieces system (prepare system (some quarter) pattern) ↔
      StrayQuarter pattern := by
  have unread : ∀ c ∈ Text.ofInt quarter, isQuarterMarkup c = false :=
    fun _ => isQuarterMarkup_of_mem_ofInt
  rw [quarter_mem_pieces_iff system false (by simp), prepare_some,
    showsQuarter_substituteQuarterAt unread, KeepsQuarter, ← occurs_quarter_filter,
    filter_prepare_none, occurs_quarter_filter, strayQuarter_iff, KeepsQuarter]

/-! ### The quarter that is put in -/

/-- Whether a pattern has a quarter token that a quarter is put in for, outside all brackets. -/
def TakesQuarter (pattern : Text) : Prop :=
  ∃ before after, pattern = before ++ 'Q' :: after ∧ depthAfter 0 before = 0

/-- No bracket is open where the depth of brackets is zero. -/
theorem openAfter_eq_false
    {text : Text}
    (closed : depthAfter 0 text = 0) :
    openAfter false text = false := by
  have deepens : ∀ (text : Text) (depth : Nat) (isOpen : Bool), (isOpen = true → 0 < depth) →
      openAfter isOpen text = true → 0 < depthAfter depth text := by
    intro text
    induction text with
    | nil => exact fun depth isOpen deep => deep
    | cons c rest inductionHypothesis =>
      intro depth isOpen deep isOpenAfter
      refine inductionHypothesis (depthBehind depth c) (openBehind isOpen c) ?_ isOpenAfter
      intro isOpenHere
      rw [openBehind] at isOpenHere
      rw [depthBehind]
      split at isOpenHere
      · cases isOpenHere
      · rename_i notClosing
        split
        · exact Nat.succ_pos depth
        · rename_i notOpening
          exact deep (by simpa [notOpening] using isOpenHere)
  refine Bool.eq_false_iff.2 fun isOpen => ?_
  exact absurd closed (Nat.ne_of_gt (deepens text 0 false (by simp) isOpen))

theorem takesQuarter_iff (pattern : Text) :
    TakesQuarter pattern ↔
      Occurs depthBehind (fun depth c _ => c = 'Q' ∧ depth = 0) 0 false pattern := by
  constructor
  · rintro ⟨before, after, equal, closed⟩
    refine ⟨before, 'Q', after, equal, ?_, rfl, closed⟩
    rintro ⟨isOpen, -⟩
    rw [openAfter_eq_false closed] at isOpen
    cases isOpen
  · rintro ⟨before, _, after, equal, -, rfl, closed⟩
    exact ⟨before, after, equal, closed⟩

instance (pattern : Text) : Decidable (TakesQuarter pattern) :=
  decidable_of_iff' _ (takesQuarter_iff pattern)

theorem takesQuarter_prepare_none_iff
    (system : CalendarSystem)
    (pattern : Text) :
    TakesQuarter (prepare system none pattern) ↔ TakesQuarter pattern := by
  rw [takesQuarter_iff, ← occurs_quarter_filter, filter_prepare_none, occurs_quarter_filter,
    takesQuarter_iff]

/-- A quarter changes nothing about a pattern that does not take it. -/
theorem prepare_of_not_takesQuarter
    (system : CalendarSystem)
    (quarter : Int)
    {pattern : Text}
    (leaves : ¬ TakesQuarter pattern) :
    prepare system (some quarter) pattern = prepare system none pattern := by
  have kept : ∀ (text : Text) (depth : Nat),
      (∀ before after, text = before ++ 'Q' :: after → depthAfter depth before ≠ 0) →
        substituteQuarterAt (Text.ofInt quarter) depth text = text := by
    intro text
    induction text with
    | nil => exact fun _ _ => rfl
    | cons c rest inductionHypothesis =>
      intro depth deep
      have here : ¬ (c = 'Q' ∧ depth = 0) := by
        rintro ⟨rfl, closed⟩
        exact deep [] rest rfl closed
      rw [substituteQuarterAt_cons here]
      refine congrArg (c :: ·) (inductionHypothesis (depthBehind depth c) ?_)
      exact fun before after equal => deep (c :: before) after (congrArg (c :: ·) equal)
  rw [prepare_some]
  refine kept _ 0 fun before after equal closed => leaves ?_
  exact (takesQuarter_prepare_none_iff system pattern).1 ⟨before, after, equal, closed⟩

/-- The digits of a quarter that is put in are read as plain characters. -/
theorem plain_mem_pieces_of_takesQuarter
    (system : CalendarSystem)
    {quarter : Int}
    {pattern : Text}
    (takes : TakesQuarter pattern)
    {c : Char}
    (member : c ∈ Text.ofInt quarter) :
    .plain c ∈ pieces system (prepare system (some quarter) pattern) := by
  have free : c ∉ solarMark :: reserved := Text.not_mem_of_mem_ofInt (by decide) member
  have subset : ∀ d ∈ ']' :: 'w' :: fieldLetters, d ∈ solarMark :: reserved := by decide
  have alone : ∀ rest, Opens system (c :: rest) (.plain c) rest := Opens.plain_of_free free
  have unread : ∀ d ∈ Text.ofInt quarter, isQuarterMarkup d = false :=
    fun _ => isQuarterMarkup_of_mem_ofInt
  obtain ⟨before, after, equal, closed⟩ := (takesQuarter_prepare_none_iff system pattern).2 takes
  obtain ⟨front, back, digits⟩ := List.append_of_mem member
  have prepared : prepare system (some quarter) pattern =
      (substituteQuarterAt (Text.ofInt quarter) 0 before ++ front) ++
        c :: (back ++ substituteQuarterAt (Text.ofInt quarter) 0 after) := by
    rw [prepare_some, equal, substituteQuarterAt_join, closed, substituteQuarterAt_quarter]
    nth_rewrite 2 [digits]
    simp
  have noBracket : front.filter isBracket = [] := by
    refine List.filter_eq_nil_iff.2 fun d inFront bracket => ?_
    have unreadHere := unread d (digits ▸ List.mem_append_left _ inFront)
    rw [isQuarterMarkup, bracket] at unreadHere
    cases unreadHere
  have sameBrackets : SameBrackets
      (substituteQuarterAt (Text.ofInt quarter) 0 before ++ front) before := by
    rw [SameBrackets, List.filter_append, noBracket, List.append_nil]
    exact sameBrackets_substituteQuarterAt unread 0 before
  have outside := openAfter_eq_false ((sameBrackets.depthAfter_eq 0).trans closed)
  have notTaken : c ∉ ']' :: 'w' :: fieldLetters := fun listed =>
    free (subset c listed)
  rw [mem_pieces_iff_of_alone alone notTaken false (by simp)]
  refine ⟨_, c, _, prepared, ?_, rfl⟩
  rw [outside]
  simp

end Pattern

open Pattern

/-- With a quarter put in, the quarter of a date itself is among the pieces of a pattern exactly if
the pattern has a stray quarter token; without one, the text does not depend on what a quarter token
stands for. -/
theorem Date.render_prepare_quarter
    (system : CalendarSystem)
    (quarter : Int)
    (pattern : Text) :
    (.token .quarter ∈ pieces system (prepare system (some quarter) pattern) ↔
        StrayQuarter pattern) ∧
      (¬ StrayQuarter pattern → ∀ (locale : Locale) (date : Date) (other : Piece),
        date.system = system →
          date.piecesText locale
              ((pieces system (prepare system (some quarter) pattern)).map fun piece =>
                if piece = .token .quarter then other else piece) =
            date.render locale (prepare system (some quarter) pattern)) := by
  have shown := quarter_mem_pieces_prepare_iff system quarter pattern
  refine ⟨shown, ?_⟩
  rintro settled locale date other rfl
  have unchanged : ∀ piece ∈ pieces date.system (prepare date.system (some quarter) pattern),
      (if piece = .token .quarter then other else piece) = piece := by
    intro piece member
    refine if_neg ?_
    rintro rfl
    exact settled (shown.1 member)
  rw [List.map_congr_left unchanged, List.map_id', render]

/-- Brackets that nest within a literal, and one closed too often, leave nothing to the date. -/
theorem Date.render_prepare_nestedQuarter :
    ¬ StrayQuarter "[[Q]]Q]Q".toList ∧
      Date.piecesText .standard ⟨.solar, ⟨739000, by decide, by decide⟩⟩
          ((pieces .solar (prepare .solar (some 3) "[[Q]]Q]Q".toList)).map fun piece =>
            if piece = .token .quarter then .plain '?' else piece) =
        Date.render .standard ⟨.solar, ⟨739000, by decide, by decide⟩⟩
          (prepare .solar (some 3) "[[Q]]Q]Q".toList) :=
  have settled : ¬ StrayQuarter "[[Q]]Q]Q".toList := by decide
  ⟨settled, (Date.render_prepare_quarter .solar 3 _).2 settled .standard
    ⟨.solar, ⟨739000, by decide, by decide⟩⟩ (.plain '?') rfl⟩

/-- After an unclosed bracket the quarter of the date is shown, and not the third one. -/
theorem Date.render_unclosedQuarter :
    (do
      let date ← Date.ofParts .solar 1403 (some 1) 1
      date.render .standard (prepare .solar (some 3) "[Q".toList)) = .ok "[1".toList := by
  simp only [render, pieces_eq_piecesWithin]
  rfl

end Daybook
