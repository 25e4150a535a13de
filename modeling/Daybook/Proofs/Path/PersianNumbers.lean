import Daybook.Proofs.Calendar.Reach
import Daybook.Proofs.Path.DigitScript
import Daybook.Proofs.Path.YearPattern
import Daybook.Proofs.Pattern.Composition
import Daybook.Proofs.Pattern.Quarter

/-!
Contract: the script of the numbers in the text of a solar date.

Owns:
- Persian digits put back into the plain ones;
- the script of what a token is replaced by, and of a whole text;
- the texts in which plain digits are left although Persian ones are wanted.

Does not own: texts of Gregorian dates, which no locale applies to.
-/

namespace Daybook

open Pattern

/-! ### There and back -/

namespace Text

def isPersianDigit (c : Char) : Bool :=
  '۰' ≤ c && c ≤ '۹'

/-- The plain digit for each of the Persian ones; all other characters stay. -/
def toPlainDigit (c : Char) : Char :=
  if isPersianDigit c then Char.ofNat (c.toNat - 0x6F0 + 48) else c

/-- A text with plain digits for the Persian ones. -/
def inPlainDigits (text : Text) : Text :=
  text.map toPlainDigit

theorem exists_code_of_isPersianDigit
    {c : Char}
    (digit : isPersianDigit c = true) :
    ∃ code ∈ List.range' 0x6F0 10, c = Char.ofNat code := by
  simp only [isPersianDigit, Bool.and_eq_true, decide_eq_true_eq] at digit
  have low : 0x6F0 ≤ c.toNat := digit.1
  have high : c.toNat ≤ 0x6F9 := digit.2
  exact ⟨c.toNat, List.mem_range'_1.2 ⟨low, by omega⟩, (Char.ofNat_toNat c).symm⟩

theorem isFigure_of_isPersianDigit
    {c : Char}
    (digit : isPersianDigit c = true) :
    isFigure c = true := by
  have table : ∀ code ∈ List.range' 0x6F0 10, isFigure (Char.ofNat code) = true := by decide
  obtain ⟨code, inBlock, rfl⟩ := exists_code_of_isPersianDigit digit
  exact table code inBlock

/-- What is no figure is a digit of neither script. -/
theorem noDigit_of_noFigure
    {c : Char}
    (noFigure : isFigure c = false) :
    c.isDigit = false ∧ isPersianDigit c = false := by
  constructor
  · refine Bool.eq_false_iff.2 fun digit => ?_
    rw [isFigure_of_isDigit (isDigit_of_isAsciiDigit digit)] at noFigure
    cases noFigure
  · refine Bool.eq_false_iff.2 fun digit => ?_
    rw [isFigure_of_isPersianDigit digit] at noFigure
    cases noFigure

theorem isPersianDigit_of_isAsciiDigit
    {c : Char}
    (digit : c.isDigit = true) :
    isPersianDigit c = false := by
  have table : ∀ code ∈ List.range' 48 10, isPersianDigit (Char.ofNat code) = false := by decide
  obtain ⟨code, inBlock, rfl⟩ := exists_code_of_isAsciiDigit digit
  exact table code inBlock

theorem toPlainDigit_toPersianDigit
    {c : Char}
    (other : isPersianDigit c = false) :
    toPlainDigit (toPersianDigit c) = c := by
  cases digit : c.isDigit with
  | true =>
    have table : ∀ code ∈ List.range' 48 10,
        toPlainDigit (toPersianDigit (Char.ofNat code)) = Char.ofNat code := by decide
    obtain ⟨code, inBlock, rfl⟩ := exists_code_of_isAsciiDigit digit
    exact table code inBlock
  | false => rw [toPersianDigit_of_isAsciiDigit_eq_false digit, toPlainDigit, other,
      if_neg Bool.false_ne_true]

theorem exists_digit_ofInt (n : Int) : ∃ c ∈ ofInt n, c.isDigit = true := by
  have ofNatural : ∀ n : Nat, ∃ c ∈ ofNat n, c.isDigit = true := by
    intro n
    obtain ⟨c, member⟩ := List.exists_mem_of_ne_nil _ (ofNat_ne_nil n)
    exact ⟨c, member, isAsciiDigit_of_mem_ofNat member⟩
  cases n with
  | ofNat n => exact ofNatural n
  | negSucc n =>
    obtain ⟨c, member, digit⟩ := ofNatural (n + 1)
    exact ⟨c, List.mem_cons_of_mem '-' member, digit⟩

/-- What is written with Persian digits can be read back, if there were none before. -/
theorem inPlainDigits_inPersianDigits
    {text : Text}
    (noPersian : ∀ c ∈ text, isPersianDigit c = false) :
    text.inPersianDigits.inPlainDigits = text := by
  rw [inPlainDigits, inPersianDigits, List.map_map]
  have same : ∀ c ∈ text, (toPlainDigit ∘ toPersianDigit) c = id c := fun c member =>
    toPlainDigit_toPersianDigit (noPersian c member)
  rw [List.map_congr_left same, List.map_id]

end Text

/-! ### The script of a text -/

namespace Date

variable {locale : Locale} {date : Date}

/-- In the pattern of a solar date that has no run which is too long, every token is read in the
solar calendar. -/
theorem system_readFor
    (isSolar : date.system = .solar)
    {quarter : Option Int}
    {pattern : Text}
    (short : ¬ Overlong pattern)
    {token : Pattern.Token}
    (member : .token token ∈ pieces .solar (prepare .solar quarter pattern)) :
    (date.readFor token).system = .solar := by
  cases token with
  | week => exact isSolar
  | quarter => exact isSolar
  | field named field =>
    cases named with
    | solar => rfl
    | gregorian => exact absurd ((readsGregorian_prepare_iff quarter pattern).1 ⟨field, member⟩) short

/-- The digits of a token are in the script of the locale. -/
theorem script_tokenText
    {token : Pattern.Token}
    (isSolar : (date.readFor token).system = .solar)
    {text : Text}
    (written : date.tokenText locale token = .ok text)
    {c : Char}
    (member : c ∈ text) :
    (c.isDigit = true → locale.persianDigits = false) ∧
      (Text.isPersianDigit c = true → locale.persianDigits = true) := by
  rcases tokenText_cases written with ⟨number, -, isNumber, rfl⟩ | named
  · have ofLocale : (date.readFor token).digits locale number = locale.digits number := by
      rw [digits, isSolar]
    rw [ofLocale, Locale.digits] at member
    cases script : locale.persianDigits with
    | true =>
      rw [script, if_pos rfl] at member
      obtain ⟨d, -, rfl⟩ := List.mem_map.1 member
      simp [Text.isAsciiDigit_toPersianDigit]
    | false =>
      rw [script, if_neg Bool.false_ne_true] at member
      simp [Text.isPersianDigit_of_isAsciiDigit (isNumber c member)]
  · have noFigure := (monthName_noFigure named).2 c member
    simp [Text.noDigit_of_noFigure noFigure]

/-- Every character of a text stands in the pattern, or comes from a token. -/
theorem mem_piecesText
    {system : CalendarSystem}
    {text shown : Text}
    (written : date.piecesText locale (pieces system text) = .ok shown)
    {c : Char}
    (member : c ∈ shown) :
    c ∈ text ∨ ∃ token first, .token token ∈ pieces system text ∧
      date.tokenText locale token = .ok first ∧ c ∈ first := by
  induction text using Opens.induction system generalizing shown with
  | nil =>
    rw [pieces] at written
    cases written
    cases member
  | opens text piece rest opens inductionHypothesis =>
    obtain ⟨taken, equal⟩ := opens.exists_append
    rw [opens.pieces_eq] at written ⊢
    obtain ⟨first, writtenFirst, remaining⟩ := Attempt.bind_eq_ok_iff.1 written
    obtain ⟨following, writtenFollowing, same⟩ := Attempt.bind_eq_ok_iff.1 remaining
    cases same
    rcases List.mem_append.1 member with here | later
    · cases opens with
      | literal =>
        cases writtenFirst
        exact .inl (by simp [here])
      | plain =>
        cases writtenFirst
        exact .inl (by simpa using .inl (List.mem_singleton.1 here))
      | marked | field | week | quarter =>
        exact .inr ⟨_, first, List.mem_cons_self, writtenFirst, here⟩
    · rcases inductionHypothesis writtenFollowing later with inRest | ⟨token, shown, listed, found⟩
      · exact .inl (equal ▸ List.mem_append_right taken inRest)
      · exact .inr ⟨token, shown, List.mem_cons_of_mem piece listed, found⟩

/-- What a piece is replaced by stands in the text. -/
theorem infix_of_mem_pieces
    {found : List Piece}
    {shown : Text}
    (written : date.piecesText locale found = .ok shown)
    {piece : Piece}
    (member : piece ∈ found) :
    ∃ text, date.pieceText locale piece = .ok text ∧ text <:+: shown := by
  induction found generalizing shown with
  | nil => cases member
  | cons other rest inductionHypothesis =>
    obtain ⟨first, writtenFirst, remaining⟩ := Attempt.bind_eq_ok_iff.1 written
    obtain ⟨following, writtenFollowing, same⟩ := Attempt.bind_eq_ok_iff.1 remaining
    cases same
    rcases List.mem_cons.1 member with rfl | later
    · exact ⟨first, writtenFirst, (List.prefix_append first following).isInfix⟩
    · obtain ⟨text, writtenText, inside⟩ := inductionHypothesis writtenFollowing later
      exact ⟨text, writtenText, inside.trans (List.suffix_append first following).isInfix⟩

/-- In the text of a solar date, figures that the pattern has not are in the script of the
locale. -/
theorem script_render
    (isSolar : date.system = .solar)
    {pattern : Text}
    (short : ¬ Overlong pattern)
    {shown : Text}
    (written : date.render locale (prepare .solar none pattern) = .ok shown)
    {c : Char}
    (member : c ∈ shown)
    (foreign : c ∉ pattern) :
    (c.isDigit = true → locale.persianDigits = false) ∧
      (Text.isPersianDigit c = true → locale.persianDigits = true) := by
  rw [render, isSolar] at written
  rcases mem_piecesText written member with inPrepared | ⟨token, text, listed, found, inText⟩
  · have noFigure : Text.isFigure c = false := by
      refine Bool.eq_false_iff.2 fun figure => foreign ?_
      refine (mem_prepare_none_iff .solar ?_ pattern).1 inPrepared
      intro listed
      have table : ∀ letter ∈ solarMark :: 'W' :: 'w' :: fieldLetters,
          Text.isFigure letter = false := by decide
      rw [table c listed] at figure
      cases figure
    simp [Text.noDigit_of_noFigure noFigure]
  · exact script_tokenText (system_readFor isSolar short listed) found inText

/-- Where a pattern takes a quarter, the quarter is written with plain digits in every locale. -/
theorem exists_digit_of_takesQuarter
    (isSolar : date.system = .solar)
    {pattern : Text}
    (takes : TakesQuarter pattern)
    (quarter : Int)
    {shown : Text}
    (written : date.render locale (prepare .solar (some quarter) pattern) = .ok shown) :
    ∃ c ∈ shown, c.isDigit = true := by
  obtain ⟨c, member, digit⟩ := Text.exists_digit_ofInt quarter
  rw [render, isSolar] at written
  obtain ⟨text, plain, inside⟩ :=
    infix_of_mem_pieces written (plain_mem_pieces_of_takesQuarter .solar takes member)
  cases plain
  exact ⟨c, inside.subset List.mem_cons_self, digit⟩

/-- A solar date whose fields are known has a text in every pattern. -/
theorem exists_piecesText
    {fields : DateFields}
    (isSolar : date.system = .solar)
    (known : date.fields = .ok fields)
    (locale : Locale)
    (found : List Piece) :
    ∃ shown, date.piecesText locale found = .ok shown := by
  have hasSolar : Solar.fields? date.day ≠ none := by
    intro unknown
    rw [Date.fields, isSolar] at known
    simp only [unknown] at known
    cases known
  have here : ∀ piece, ∃ text, date.pieceText locale piece = .ok text := by
    intro piece
    cases piece with
    | literal text => exact ⟨text, rfl⟩
    | plain c => exact ⟨[c], rfl⟩
    | token token =>
      cases written : date.tokenText locale token with
      | ok text => exact ⟨text, written⟩
      | error fault =>
        have broken : Attempt.BreaksOff (date.tokenText locale token) :=
          ⟨fault, written, neverRefuses_pieceText locale date (.token token) fault written⟩
        exact absurd ((breaksOff_tokenText_iff locale date token).1 broken).2 hasSolar
  induction found with
  | nil => exact ⟨[], rfl⟩
  | cons piece rest inductionHypothesis =>
    obtain ⟨text, written⟩ := here piece
    obtain ⟨following, writtenRest⟩ := inductionHypothesis
    exact ⟨text ++ following, by rw [piecesText, written, writtenRest]; rfl⟩

end Date

/-! ### The text of parts -/

namespace Path

/-- Whether a quarter is put into the pattern that counts for the parts. -/
def PutsQuarter (pattern : Option Text) (parts : DateParts) : Prop :=
  parts.quarter.isSome = true ∧ TakesQuarter (effectivePattern pattern parts)

instance (pattern : Option Text) (parts : DateParts) : Decidable (PutsQuarter pattern parts) :=
  inferInstanceAs (Decidable (_ ∧ _))

theorem prepare_of_not_putsQuarter
    (system : CalendarSystem)
    {pattern : Option Text}
    {parts : DateParts}
    (leaves : ¬ PutsQuarter pattern parts) :
    prepare system parts.quarter (effectivePattern pattern parts) =
      prepare system none (effectivePattern pattern parts) := by
  cases given : parts.quarter with
  | none => rfl
  | some quarter =>
    refine prepare_of_not_takesQuarter system quarter fun takes => leaves ⟨?_, takes⟩
    rw [given]
    rfl

section Script

variable
  {calendar : Option Calendar}
  (standsFor : Calendar.StandsFor .solar calendar)
  {pattern : Option Text}
  (short : ∀ given ∈ pattern, ¬ Overlong given)
  (parts : DateParts)

include standsFor short

/-- Figures that a pattern has not are in the script of the locale, unless a quarter is put in. -/
theorem script_dateText
    {surroundings : Surroundings}
    (leaves : ¬ PutsQuarter pattern parts)
    {shown : Text}
    (written : (dateText .solar calendar pattern parts).answer surroundings = .ok shown)
    {c : Char}
    (member : c ∈ shown)
    (foreign : c ∉ effectivePattern pattern parts) :
    (c.isDigit = true → surroundings.locale.persianDigits = false) ∧
      (Text.isPersianDigit c = true → surroundings.locale.persianDigits = true) := by
  have shortPattern : ¬ Overlong (effectivePattern pattern parts) :=
    of_effectivePattern short (by decide) parts
  obtain ⟨-, date, found, rendered⟩ := (answer_dateText_eq_ok_iff standsFor).1 written
  rw [prepare_of_not_putsQuarter .solar leaves] at rendered
  exact Date.script_render (Date.system_ofDateParts found) shortPattern rendered member foreign

/-- Plain digits are left among Persian ones exactly where a quarter is put in. -/
theorem exists_digit_dateText_iff
    (noDigit : ∀ given ∈ pattern, ∀ c ∈ given, c.isDigit = false)
    {surroundings : Surroundings}
    (isPersian : surroundings.locale.persianDigits = true)
    {shown : Text}
    (written : (dateText .solar calendar pattern parts).answer surroundings = .ok shown) :
    (∃ c ∈ shown, c.isDigit = true) ↔ PutsQuarter pattern parts := by
  have noDigitPattern : ∀ c ∈ effectivePattern pattern parts, c.isDigit = false :=
    of_effectivePattern noDigit (by decide) parts
  constructor
  · rintro ⟨c, member, digit⟩
    by_contra leaves
    have foreign : c ∉ effectivePattern pattern parts := by
      intro inPattern
      rw [noDigitPattern c inPattern] at digit
      cases digit
    have plain := (script_dateText standsFor short parts leaves written member foreign).1 digit
    rw [isPersian] at plain
    cases plain
  · rintro ⟨given, takes⟩
    obtain ⟨quarter, isQuarter⟩ := Option.isSome_iff_exists.1 given
    obtain ⟨-, date, found, rendered⟩ := (answer_dateText_eq_ok_iff standsFor).1 written
    rw [isQuarter] at rendered
    exact Date.exists_digit_of_takesQuarter (Date.system_ofDateParts found) takes quarter rendered

/-- Where no quarter is put in, the text with Persian digits is the Persian form of the one with
plain digits. -/
theorem dateText_eq_inPersianDigits
    (noDigit : ∀ given ∈ pattern, ∀ c ∈ given, c.isDigit = false)
    (leaves : ¬ PutsQuarter pattern parts)
    (today : Day)
    (dialect : Dialect) :
    (dateText .solar calendar pattern parts).answer ⟨today, ⟨true, dialect⟩⟩ =
      ((dateText .solar calendar pattern parts).answer ⟨today, ⟨false, dialect⟩⟩).map
        Text.inPersianDigits := by
  have alreadyPersian :
      (dateText .solar calendar pattern parts).answer ⟨today, ⟨true, dialect⟩⟩ =
        ((dateText .solar calendar pattern parts).answer ⟨today, ⟨true, dialect⟩⟩).map
          Text.inPersianDigits := by
    cases written : (dateText .solar calendar pattern parts).answer ⟨today, ⟨true, dialect⟩⟩ with
    | error fault => rfl
    | ok shown =>
      have digits := exists_digit_dateText_iff standsFor short parts noDigit rfl written
      have noneLeft : ∀ c ∈ shown, c.isDigit = false := fun c member =>
        Bool.eq_false_iff.2 fun digit => leaves (digits.1 ⟨c, member, digit⟩)
      exact congrArg Except.ok (Text.inPersianDigits_eq_self_iff.2 noneLeft).symm
  have sameDialect : (Locale.mk true dialect).dialect = (Locale.mk false dialect).dialect := rfl
  exact alreadyPersian.trans
    (sameScript_dateText sameDialect .solar calendar pattern parts today)

/-- A text with plain digits has no Persian ones, unless the pattern has or a quarter is put in. -/
theorem noPersianDigit_dateText
    (noPersian : ∀ given ∈ pattern, ∀ c ∈ given, Text.isPersianDigit c = false)
    (leaves : ¬ PutsQuarter pattern parts)
    {surroundings : Surroundings}
    (isPlain : surroundings.locale.persianDigits = false)
    {shown : Text}
    (written : (dateText .solar calendar pattern parts).answer surroundings = .ok shown) :
    ∀ c ∈ shown, Text.isPersianDigit c = false := by
  have noPersianPattern : ∀ c ∈ effectivePattern pattern parts, Text.isPersianDigit c = false :=
    of_effectivePattern noPersian (by decide) parts
  intro c member
  refine Bool.eq_false_iff.2 fun digit => ?_
  have foreign : c ∉ effectivePattern pattern parts := by
    intro inPattern
    rw [noPersianPattern c inPattern] at digit
    cases digit
  have wanted := (script_dateText standsFor short parts leaves written member foreign).2 digit
  rw [isPlain] at wanted
  cases wanted

end Script

/-- Parts for which the solar calendar gives a date whose fields are known have a text, unless a
number that is written on the way is too long. -/
theorem exists_dateText_iff
    {calendar : Option Calendar}
    (standsFor : Calendar.StandsFor .solar calendar)
    (pattern : Option Text)
    {parts : DateParts}
    {surroundings : Surroundings}
    {date : Date}
    {fields : DateFields}
    (found : Date.ofDateParts .solar (Calendar.todayIn surroundings calendar) parts = .ok date)
    (known : date.fields = .ok fields) :
    (∃ shown, (dateText .solar calendar pattern parts).answer surroundings = .ok shown) ↔
      CanWrite pattern parts := by
  obtain ⟨shown, rendered⟩ := Date.exists_piecesText (Date.system_ofDateParts found) known
    surroundings.locale
    (pieces date.system (prepare .solar parts.quarter (effectivePattern pattern parts)))
  simp only [answer_dateText_eq_ok_iff standsFor]
  exact ⟨fun ⟨_, canWrite, _⟩ => canWrite, fun canWrite => ⟨shown, canWrite, date, found, rendered⟩⟩

/-- In a pattern of tokens, literals and plain text without digits, every number of a solar date is
written with Persian digits if those are wanted, but for a quarter that is put in, which keeps the
plain ones; only a number that is too long to be written stands in the way of a text.  Where no
quarter is put in, the text with Persian digits is the Persian form of the other one, which can be
read back from it if the pattern has no Persian digits itself. -/
theorem persianDigits_dateText
    {calendar : Option Calendar}
    (standsFor : Calendar.StandsFor .solar calendar)
    {layout : Layout}
    (composed : layout.Composed)
    (noDigit : ∀ c ∈ layout.source, c.isDigit = false)
    (parts : DateParts)
    (today : Day)
    (dialect : Dialect) :
    let text := fun persianDigits =>
      (dateText .solar calendar (some layout.source) parts).answer ⟨today, ⟨persianDigits, dialect⟩⟩
    (∀ date fields,
        Date.ofDateParts .solar (Calendar.todayIn ⟨today, ⟨true, dialect⟩⟩ calendar) parts = .ok date →
          date.fields = .ok fields →
            ((∃ shown, text true = .ok shown) ↔ CanWrite (some layout.source) parts)) ∧
      (∀ shown, text true = .ok shown →
        ((∃ c ∈ shown, c.isDigit = true) ↔ PutsQuarter (some layout.source) parts)) ∧
      (¬ PutsQuarter (some layout.source) parts →
        text true = (text false).map Text.inPersianDigits ∧
          ((∀ c ∈ layout.source, Text.isPersianDigit c = false) →
            (text true).map Text.inPlainDigits = text false)) := by
  intro text
  have short : ∀ given ∈ some layout.source, ¬ Overlong given := by
    rintro _ ⟨⟩
    exact composed.not_overlong
  have noDigitGiven : ∀ given ∈ some layout.source, ∀ c ∈ given, c.isDigit = false := by
    rintro _ ⟨⟩
    exact noDigit
  have noPersianGiven :
      (∀ c ∈ layout.source, Text.isPersianDigit c = false) →
        ∀ given ∈ some layout.source, ∀ c ∈ given, Text.isPersianDigit c = false := by
    rintro noPersian _ ⟨⟩
    exact noPersian
  refine ⟨?_, ?_, fun leaves => ?_⟩
  · intro date fields found known
    exact exists_dateText_iff standsFor _ found known
  · intro shown written
    exact exists_digit_dateText_iff standsFor short parts noDigitGiven rfl written
  · have persian : text true = (text false).map Text.inPersianDigits :=
      dateText_eq_inPersianDigits standsFor short parts noDigitGiven leaves today dialect
    refine ⟨persian, fun noPersian => ?_⟩
    rw [persian]
    cases written : text false with
    | error fault => rfl
    | ok shown =>
      have noneRead := noPersianDigit_dateText standsFor short parts
        (noPersianGiven noPersian) leaves rfl written
      exact congrArg Except.ok (Text.inPlainDigits_inPersianDigits noneRead)

set_option maxRecDepth 4096 in
/-- A literal with an opening bracket in it keeps the given quarter out, and the quarter of the date
itself is written with Persian digits. -/
theorem persianDigits_dateText_strayQuarter :
    let layout : Layout := [.literal "MMM[".toList, .symbol .quarter, .plain "s/".toList,
      .symbol (.field .year), .symbol (.field .monthName)]
    let text := fun persianDigits =>
      (dateText .solar none (some layout.source) ⟨1403, some 8, some 15, none, some 4⟩).answer
        ⟨⟨739000, by decide, by decide⟩, ⟨persianDigits, .english⟩⟩
    text false = .ok "MMM[3s/1403Aban".toList ∧ (text true).map Text.inPlainDigits = text false ∧
      ∃ shown, text true = .ok shown ∧ ∀ c ∈ shown, c.isDigit = false := by
  intro layout text
  have composed : layout.Composed := by decide
  have noDigit : ∀ c ∈ layout.source, c.isDigit = false := by decide
  have leaves : ¬ PutsQuarter (some layout.source) ⟨1403, some 8, some 15, none, some 4⟩ := by
    decide
  obtain ⟨succeeds, digits, translates⟩ :=
    persianDigits_dateText (Calendar.standsFor_none .solar) composed noDigit
      ⟨1403, some 8, some 15, none, some 4⟩ ⟨739000, by decide, by decide⟩ .english
  have written : text false = .ok "MMM[3s/1403Aban".toList := by
    have canWrite : CanWrite (some layout.source) ⟨1403, some 8, some 15, none, some 4⟩ := by decide
    simp only [text, answer_dateText (Calendar.standsFor_none .solar) canWrite, Date.render,
      pieces_eq_piecesWithin]
    rfl
  obtain ⟨shown, persian⟩ := (succeeds ⟨.solar, ⟨739195, by decide, by decide⟩⟩ ⟨1403, 8, 15⟩
    (by rfl) (by rfl)).2 (by decide)
  refine ⟨written, (translates leaves).2 (by decide), shown, persian, fun c member => ?_⟩
  exact Bool.eq_false_iff.2 fun digit => leaves ((digits shown persian).1 ⟨c, member, digit⟩)

set_option maxRecDepth 4096 in
/-- A quarter that is put in keeps its plain digit among the Persian ones. -/
theorem dateText_plainQuarter :
    (dateText .solar none
        (some (Layout.source [.symbol (.field .year), .plain ['-'], .literal ['Q'],
          .symbol .quarter]))
        ⟨1403, some 1, none, none, some 3⟩).answer
          ⟨⟨739000, by decide, by decide⟩, ⟨true, .persianModern⟩⟩ =
      .ok "۱۴۰۳-Q3".toList :=
  (dateText_eq_ok_iff (Calendar.standsFor_none .solar) (by decide) (by decide) _ _ _).2
    ⟨by decide, ⟨.solar, ⟨738965, by decide, by decide⟩⟩, by rfl, rfl, by rfl⟩

end Path

end Daybook
