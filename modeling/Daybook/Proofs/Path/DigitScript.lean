import Daybook.Proofs.Path.Joining
import Daybook.Proofs.Path.Shown
import Daybook.Proofs.Text.Numeral

/-!
Contract: what a text means does not depend on the script of its digits.

Owns:
- texts, figures and faults with Persian digits for the plain ones;
- the date that such a text shows;
- the text of a date in two locales of one dialect;
- the date that the path of a note shows, in two such locales.

Does not own: what the names of months mean, which differ from dialect to dialect.
-/

namespace Daybook

/-! ### Persian digits for the plain ones -/

namespace Text

theorem toPersianDigit_of_isAsciiDigit_eq_false
    {c : Char}
    (noDigit : c.isDigit = false) :
    toPersianDigit c = c := by
  rw [toPersianDigit, if_neg]
  intro inside
  have digit : c.isDigit = true := by
    simp only [Char.isDigit, Bool.and_eq_true, decide_eq_true_eq]
    exact inside
  rw [digit] at noDigit
  cases noDigit

theorem toPersianDigit_of_isDigit_eq_false
    {c : Char}
    (noDigit : isDigit c = false) :
    toPersianDigit c = c := by
  refine toPersianDigit_of_isAsciiDigit_eq_false (Bool.eq_false_iff.2 fun digit => ?_)
  rw [isDigit_of_isAsciiDigit digit] at noDigit
  cases noDigit

theorem isFigure_toPersianDigit (c : Char) : isFigure (toPersianDigit c) = isFigure c := by
  cases digit : isDigit c with
  | true =>
    rw [isFigure_of_isDigit digit, isFigure_of_isDigit ((isDigit_toPersianDigit c).trans digit)]
  | false => rw [toPersianDigit_of_isDigit_eq_false digit]

/-- A Persian digit stands for no other character than a digit. -/
theorem toPersianDigit_eq_iff
    {mark : Char}
    (noDigit : isDigit mark = false)
    (c : Char) :
    toPersianDigit c = mark ↔ c = mark := by
  constructor
  · rintro rfl
    rw [isDigit_toPersianDigit] at noDigit
    exact (toPersianDigit_of_isDigit_eq_false noDigit).symm
  · rintro rfl
    exact toPersianDigit_of_isDigit_eq_false noDigit

theorem exists_code_of_isAsciiDigit
    {c : Char}
    (digit : c.isDigit = true) :
    ∃ code ∈ List.range' 48 10, c = Char.ofNat code := by
  simp only [Char.isDigit, Bool.and_eq_true, decide_eq_true_eq] at digit
  have low : 48 ≤ c.toNat := digit.1
  have high : c.toNat ≤ 57 := digit.2
  exact ⟨c.toNat, List.mem_range'_1.2 ⟨low, by omega⟩, (Char.ofNat_toNat c).symm⟩

theorem isAsciiDigit_toPersianDigit (c : Char) : (toPersianDigit c).isDigit = false := by
  cases digit : c.isDigit with
  | true =>
    have table : ∀ code ∈ List.range' 48 10,
        (toPersianDigit (Char.ofNat code)).isDigit = false := by decide
    obtain ⟨code, inBlock, rfl⟩ := exists_code_of_isAsciiDigit digit
    exact table code inBlock
  | false => rw [toPersianDigit_of_isAsciiDigit_eq_false digit, digit]

theorem toPersianDigit_eq_self_iff {c : Char} : toPersianDigit c = c ↔ c.isDigit = false :=
  ⟨fun same => same ▸ isAsciiDigit_toPersianDigit c, toPersianDigit_of_isAsciiDigit_eq_false⟩

theorem toPersianDigit_toPersianDigit (c : Char) :
    toPersianDigit (toPersianDigit c) = toPersianDigit c :=
  toPersianDigit_of_isAsciiDigit_eq_false (isAsciiDigit_toPersianDigit c)

/-- A text with Persian digits for the plain ones. -/
def inPersianDigits (text : Text) : Text :=
  text.map toPersianDigit

@[simp] theorem inPersianDigits_nil : inPersianDigits [] = [] := rfl

@[simp] theorem inPersianDigits_cons (c : Char) (rest : Text) :
    inPersianDigits (c :: rest) = toPersianDigit c :: inPersianDigits rest := rfl

theorem inPersianDigits_append (text following : Text) :
    inPersianDigits (text ++ following) = inPersianDigits text ++ inPersianDigits following :=
  List.map_append

/-- A text without digits is the Persian form of itself only. -/
theorem inPersianDigits_eq_iff
    {marks : Text}
    (noDigit : ∀ c ∈ marks, isDigit c = false)
    (text : Text) :
    text.inPersianDigits = marks ↔ text = marks := by
  induction marks generalizing text with
  | nil => exact List.map_eq_nil_iff
  | cons mark marks inductionHypothesis =>
    cases text with
    | nil => simp
    | cons c rest =>
      rw [inPersianDigits_cons, List.cons.injEq, List.cons.injEq,
        toPersianDigit_eq_iff (noDigit mark List.mem_cons_self),
        inductionHypothesis fun other member => noDigit other (List.mem_cons_of_mem mark member)]

theorem length_inPersianDigits (text : Text) : (inPersianDigits text).length = text.length :=
  List.length_map _

theorem inPersianDigits_inPersianDigits (text : Text) :
    inPersianDigits (inPersianDigits text) = inPersianDigits text := by
  unfold inPersianDigits
  rw [List.map_map]
  exact List.map_congr_left fun c _ => toPersianDigit_toPersianDigit c

/-- A text is its own Persian form exactly if it has no plain digit. -/
theorem inPersianDigits_eq_self_iff
    {text : Text} :
    text.inPersianDigits = text ↔ ∀ c ∈ text, c.isDigit = false := by
  induction text with
  | nil => simp
  | cons c rest inductionHypothesis =>
    rw [inPersianDigits_cons, List.cons.injEq, toPersianDigit_eq_self_iff, inductionHypothesis,
      List.forall_mem_cons]

theorem all_isDigit_inPersianDigits (text : Text) :
    (inPersianDigits text).all isDigit = text.all isDigit := by
  rw [inPersianDigits, List.all_map]
  exact congrArg text.all (funext isDigit_toPersianDigit)

/-- The digits of a locale are told apart by their script only. -/
theorem inPersianDigits_digits (locale : Locale) (text : Text) :
    inPersianDigits (locale.digits text) = inPersianDigits text := by
  unfold Locale.digits
  split
  · exact inPersianDigits_inPersianDigits text
  · rfl

end Text

/-- A fault that quotes figures, with Persian digits for the plain ones among them. -/
def Fault.inPersianDigits : Fault → Fault
  | .numeral source flaw => .numeral source.inPersianDigits flaw
  | other => other

namespace Path

/-! ### What a text shows -/

namespace DateFigures

def inPersianDigits (figures : DateFigures) : DateFigures :=
  ⟨figures.year.inPersianDigits, figures.month.map Text.inPersianDigits,
    figures.day.map Text.inPersianDigits, figures.week.map Text.inPersianDigits,
    figures.quarter.map Text.inPersianDigits⟩

theorem number_inPersianDigits (figures : Text) :
    number figures.inPersianDigits = (number figures).mapError Fault.inPersianDigits := by
  unfold number
  rw [Text.all_isDigit_inPersianDigits]
  split
  · exact congrArg (fun value : Nat => Except.ok (value : Int))
      (Text.digitsValue_map_toPersianDigit figures)
  · rfl

theorem optionalNumber_inPersianDigits (figures : Option Text) :
    optionalNumber (figures.map Text.inPersianDigits) =
      (optionalNumber figures).mapError Fault.inPersianDigits := by
  cases figures with
  | none => rfl
  | some figures =>
    show (do pure (some (← number figures.inPersianDigits))) = _
    rw [number_inPersianDigits, optionalNumber]
    cases number figures <;> rfl

theorem parts_inPersianDigits (figures : DateFigures) :
    figures.inPersianDigits.parts = figures.parts.mapError Fault.inPersianDigits := by
  unfold parts
  simp only [inPersianDigits, number_inPersianDigits, optionalNumber_inPersianDigits]
  cases number figures.year with
  | error fault => rfl
  | ok year =>
    cases optionalNumber figures.month with
    | error fault => rfl
    | ok month =>
      cases optionalNumber figures.day with
      | error fault => rfl
      | ok day =>
        cases optionalNumber figures.week with
        | error fault => rfl
        | ok week => cases optionalNumber figures.quarter <;> rfl

end DateFigures

theorem fourFigures?_inPersianDigits (text : Text) :
    fourFigures? text.inPersianDigits =
      (fourFigures? text).map (Prod.map Text.inPersianDigits Text.inPersianDigits) := by
  match text with
  | [] | [_] | [_, _] | [_, _, _] => rfl
  | a :: b :: c :: d :: rest =>
    have sameAll : (Text.inPersianDigits [a, b, c, d]).all Text.isFigure =
        [a, b, c, d].all Text.isFigure := by
      rw [Text.inPersianDigits, List.all_map]
      exact congrArg [a, b, c, d].all (funext Text.isFigure_toPersianDigit)
    show (if (Text.inPersianDigits [a, b, c, d]).all Text.isFigure then
      some (Text.inPersianDigits [a, b, c, d], Text.inPersianDigits rest) else none) = _
    rw [sameAll, fourFigures?]
    split <;> rfl

theorem fewFigures?_inPersianDigits (text : Text) :
    fewFigures? text.inPersianDigits =
      (fewFigures? text).map (Prod.map Text.inPersianDigits Text.inPersianDigits) := by
  match text with
  | [] => rfl
  | [a] =>
    simp only [Text.inPersianDigits_cons, Text.inPersianDigits_nil, fewFigures?,
      Text.isFigure_toPersianDigit]
    split <;> rfl
  | a :: b :: rest =>
    simp only [Text.inPersianDigits_cons, fewFigures?, Text.isFigure_toPersianDigit]
    split
    · split <;> rfl
    · rfl

theorem skipJoint_inPersianDigits (text : Text) :
    skipJoint text.inPersianDigits = (skipJoint text).inPersianDigits := by
  cases text with
  | nil => rfl
  | cons c rest =>
    simp only [Text.inPersianDigits_cons, skipJoint,
      Text.toPersianDigit_eq_iff (show Text.isDigit '/' = false by decide),
      Text.toPersianDigit_eq_iff (show Text.isDigit '-' = false by decide)]
    split <;> rfl

/-- Whether a form finds the same figures in Persian digits as in plain ones. -/
def IgnoresScript (form : Text → Option DateFigures) : Prop :=
  ∀ text : Text, form text.inPersianDigits = (form text).map DateFigures.inPersianDigits

theorem behind?_inPersianDigits
    {letter : Char}
    (noDigit : Text.isDigit letter = false)
    (text : Text) :
    behind? letter text.inPersianDigits = (behind? letter text).map Text.inPersianDigits := by
  cases text with
  | nil => rfl
  | cons c rest =>
    simp only [Text.inPersianDigits_cons, behind?, Text.toPersianDigit_eq_iff noDigit]
    split <;> rfl

theorem oneFigure?_inPersianDigits (text : Text) :
    oneFigure? text.inPersianDigits = (oneFigure? text).map Text.toPersianDigit := by
  cases text with
  | nil => rfl
  | cons c rest =>
    simp only [Text.inPersianDigits_cons, oneFigure?, Text.isFigure_toPersianDigit]
    split <;> rfl

theorem ignoresScript_weekAt? : IgnoresScript weekAt? := by
  intro text
  rw [weekAt?_eq, weekAt?_eq, fourFigures?_inPersianDigits]
  cases fourFigures? text with
  | none => rfl
  | some found =>
    simp only [Option.map_some, Option.bind_some, Prod.map, skipJoint_inPersianDigits]
    rw [behind?_inPersianDigits (by decide)]
    cases behind? 'W' (skipJoint found.2) with
    | none => rfl
    | some rest =>
      simp only [Option.map_some, Option.bind_some, fewFigures?_inPersianDigits]
      cases fewFigures? rest <;> rfl

theorem ignoresScript_quarterAt? : IgnoresScript quarterAt? := by
  intro text
  rw [quarterAt?_eq, quarterAt?_eq, fourFigures?_inPersianDigits]
  cases fourFigures? text with
  | none => rfl
  | some found =>
    simp only [Option.map_some, Option.bind_some, Prod.map, skipJoint_inPersianDigits]
    rw [behind?_inPersianDigits (by decide)]
    cases behind? 'Q' (skipJoint found.2) with
    | none => rfl
    | some rest =>
      simp only [Option.map_some, Option.bind_some, oneFigure?_inPersianDigits]
      cases oneFigure? rest <;> rfl

theorem ignoresScript_dateAt? : IgnoresScript dateAt? := by
  intro text
  unfold dateAt?
  rw [fourFigures?_inPersianDigits]
  cases fourFigures? text with
  | none => rfl
  | some found =>
    obtain ⟨year, afterYear⟩ := found
    simp only [Option.map_some, Prod.map, skipJoint_inPersianDigits, fewFigures?_inPersianDigits]
    cases fewFigures? (skipJoint afterYear) with
    | none =>
      simp only [Option.map_none, skipJoint_inPersianDigits, fewFigures?_inPersianDigits]
      cases fewFigures? (skipJoint (skipJoint afterYear)) <;> rfl
    | some month =>
      simp only [Option.map_some, Prod.map, skipJoint_inPersianDigits, fewFigures?_inPersianDigits]
      cases fewFigures? (skipJoint month.2) <;> rfl

theorem IgnoresScript.leftmost?
    {form : Text → Option DateFigures}
    (ignores : IgnoresScript form) :
    IgnoresScript (leftmost? form) := by
  intro text
  induction text with
  | nil => exact ignores []
  | cons c rest inductionHypothesis =>
    have here := ignores (c :: rest)
    rw [Text.inPersianDigits_cons] at here ⊢
    rw [Path.leftmost?, Path.leftmost?, here]
    cases form (c :: rest) with
    | none => exact inductionHypothesis
    | some found => rfl

theorem ignoresScript_shown? : IgnoresScript shown? := by
  intro text
  simp only [shown?, dateForms, List.findSome?_cons, List.findSome?_nil,
    ignoresScript_weekAt?.leftmost? text, ignoresScript_quarterAt?.leftmost? text,
    ignoresScript_dateAt?.leftmost? text]
  cases leftmost? weekAt? text with
  | some week => rfl
  | none =>
    cases leftmost? quarterAt? text with
    | some quarter => rfl
    | none => cases leftmost? dateAt? text <;> rfl

theorem recover?_inPersianDigits (text : Text) :
    recover? text.inPersianDigits = (recover? text).mapError Fault.inPersianDigits := by
  unfold recover?
  rw [ignoresScript_shown?]
  cases shown? text with
  | none => rfl
  | some figures =>
    simp only [Option.map_some, DateFigures.parts_inPersianDigits]
    cases figures.parts <;> rfl

end Path

/-! ### What a date is written as -/

section Rendering

variable
  {first second : Locale}
  (sameDialect : first.dialect = second.dialect)

theorem Date.inPersianDigits_digits
    (locale : Locale)
    (date : Date)
    (text : Text) :
    (date.digits locale text).inPersianDigits = text.inPersianDigits := by
  unfold Date.digits
  split
  · rfl
  · exact Text.inPersianDigits_digits locale text

/-- A number that is read off a date is written alike in all locales but for the script. -/
theorem Date.sameScript_number
    {α : Type}
    (first second : Locale)
    (date : Date)
    (read : Except Fault α)
    (spelled : α → Text) :
    Except.map Text.inPersianDigits (do pure (date.digits first (spelled (← read)))) =
      Except.map Text.inPersianDigits (do pure (date.digits second (spelled (← read)))) := by
  cases read with
  | error fault => rfl
  | ok value =>
    show Except.ok (date.digits first _).inPersianDigits =
      Except.ok (date.digits second _).inPersianDigits
    rw [Date.inPersianDigits_digits, Date.inPersianDigits_digits]

include sameDialect

theorem Date.sameScript_monthName (date : Date) :
    (date.monthName first).map Text.inPersianDigits =
      (date.monthName second).map Text.inPersianDigits := by
  unfold Date.monthName Locale.monthNames
  rw [sameDialect]

theorem Date.sameScript_tokenText
    (date : Date)
    (token : Pattern.Token) :
    (date.tokenText first token).map Text.inPersianDigits =
      (date.tokenText second token).map Text.inPersianDigits := by
  cases token with
  | week => exact sameScript_number first second date date.week _
  | quarter => exact sameScript_number first second date date.quarter _
  | field system field =>
    cases field with
    | monthName => exact sameScript_monthName sameDialect ⟨system, date.day⟩
    | year | paddedMonth | month | paddedDay | day =>
      exact sameScript_number first second ⟨system, date.day⟩ (fields ⟨system, date.day⟩) _

theorem Date.sameScript_piecesText
    (date : Date)
    (pieces : List Pattern.Piece) :
    (date.piecesText first pieces).map Text.inPersianDigits =
      (date.piecesText second pieces).map Text.inPersianDigits := by
  have split : ∀ (locale : Locale) (piece : Pattern.Piece) (rest : List Pattern.Piece),
      (date.piecesText locale (piece :: rest)).map Text.inPersianDigits =
        (do
          let text ← (date.pieceText locale piece).map Text.inPersianDigits
          let following ← (date.piecesText locale rest).map Text.inPersianDigits
          pure (text ++ following)) := by
    intro locale piece rest
    rw [piecesText]
    cases date.pieceText locale piece with
    | error fault => rfl
    | ok text =>
      cases date.piecesText locale rest with
      | error fault => rfl
      | ok following => exact congrArg Except.ok (Text.inPersianDigits_append text following)
  induction pieces with
  | nil => rfl
  | cons piece rest inductionHypothesis =>
    have here : (date.pieceText first piece).map Text.inPersianDigits =
        (date.pieceText second piece).map Text.inPersianDigits := by
      cases piece with
      | literal text => rfl
      | plain character => rfl
      | token token => exact sameScript_tokenText sameDialect date token
    rw [split, split, here, inductionHypothesis]

namespace Path

theorem sameScript_dateText
    (system : CalendarSystem)
    (calendar : Option Calendar)
    (pattern : Option Text)
    (parts : DateParts)
    (today : Day) :
    ((dateText system calendar pattern parts).answer ⟨today, first⟩).map Text.inPersianDigits =
      ((dateText system calendar pattern parts).answer ⟨today, second⟩).map
        Text.inPersianDigits := by
  cases resolved : calendar.getD (.ofSystem system none) with
  | ofSystem own clock =>
    rw [answer_dateText_of_resolved resolved, answer_dateText_of_resolved resolved]
    cases choosePattern pattern parts with
    | error fault => rfl
    | ok chosen =>
      show Except.map _ (Date.ofDateParts own (clock.getD today) parts >>= _) =
        Except.map _ (Date.ofDateParts own (clock.getD today) parts >>= _)
      cases Date.ofDateParts own (clock.getD today) parts with
      | error fault => rfl
      | ok date =>
        show Except.map _ (Pattern.prepared system parts.quarter chosen >>= _) =
          Except.map _ (Pattern.prepared system parts.quarter chosen >>= _)
        cases Pattern.prepared system parts.quarter chosen with
        | error fault => rfl
        | ok prepared => exact Date.sameScript_piecesText sameDialect date _
  | echo =>
    -- The numbers are repeated in plain digits, whatever the locale.
    obtain ⟨asked, answered⟩ := Calendar.exists_echoed parts
    simp only [dateText, Consultation.answer_bind, Consultation.answer_ofExcept,
      Calendar.answer_orShared, resolved]
    cases choosePattern pattern parts with
    | error fault => rfl
    | ok chosen =>
      simp only [Except.bind, answered]
      cases asked with
      | error fault => rfl
      | ok numbers => cases Pattern.prepared system parts.quarter chosen <;> rfl

end Path

end Rendering

namespace Path

/-! ### What a path shows -/

theorem dropSeparators_inPersianDigits (text : Text) :
    text.inPersianDigits.dropWhile isSeparator =
      Text.inPersianDigits (text.dropWhile isSeparator) := by
  have same : isSeparator ∘ Text.toPersianDigit = isSeparator := by
    funext c
    rw [Bool.eq_iff_iff]
    simpa [isSeparator] using Text.toPersianDigit_eq_iff (show Text.isDigit '/' = false by decide) c
  rw [Text.inPersianDigits, List.dropWhile_map, same]
  rfl

theorem suffix_inPersianDigits_iff (text : Text) :
    extension <:+ text.inPersianDigits ↔ extension <:+ text := by
  have plain : ∀ c ∈ extension, Text.isDigit c = false := by decide
  constructor
  · rintro ⟨front, whole⟩
    obtain ⟨before, ending, rfl, -, shown⟩ := List.map_eq_append_iff.1 whole.symm
    rw [(Text.inPersianDigits_eq_iff plain ending).1 shown]
    exact List.suffix_append before extension
  · rintro ⟨front, rfl⟩
    rw [Text.inPersianDigits_append, (Text.inPersianDigits_eq_iff plain extension).2 rfl]
    exact List.suffix_append _ extension

theorem withoutExtension_inPersianDigits (text : Text) :
    withoutExtension text.inPersianDigits = (withoutExtension text).inPersianDigits := by
  unfold withoutExtension
  simp only [List.isSuffixOf_iff_suffix, suffix_inPersianDigits_iff, Text.length_inPersianDigits]
  split
  · exact (List.map_take ..).symm
  · rfl

/-- The path of a note shows what the text of its date shows. -/
theorem dateOf?_assemble_inPersianDigits (base rendered : Text) :
    (dateOf? base (assemble base rendered)).mapError Fault.inPersianDigits =
      recover? (withoutExtension (rendered.inPersianDigits.dropWhile isSeparator)) := by
  rw [dateOf?, insideBase?_assemble, dropSeparators_inPersianDigits,
    withoutExtension_inPersianDigits, recover?_inPersianDigits]

/-- Whether the figures of the date that a text shows, if it shows one, all have values. -/
def ShowsValues (text : Text) : Prop :=
  ∀ figures ∈ shown? text, figures.HaveValues

theorem ShowsValues.exists_recover?
    {text : Text}
    (valued : ShowsValues text) :
    ∃ found, recover? text = .ok found := by
  rw [recover?_eq]
  cases shown : shown? text with
  | none => exact ⟨none, rfl⟩
  | some figures =>
    have noneLeft := DateFigures.haveValues_iff_unvalued?.1 (valued figures shown)
    exact ⟨some figures.values, by simp only [noneLeft]⟩

theorem ShowsValues.exists_dateOf?
    {base file text : Text}
    (inside : insideBase? base file = some text)
    (valued : ShowsValues text) :
    ∃ found, dateOf? base file = .ok found := by
  obtain ⟨found, read⟩ := valued.exists_recover?
  exact ⟨found, by rw [dateOf?, inside]; exact read⟩

/-- Whether the first figures without a value that a text shows, if there are any, hold no plain
digit. -/
def QuotesNoPlainDigit (text : Text) : Prop :=
  ∀ figures ∈ shown? text, ∀ run ∈ figures.unvalued?, ∀ c ∈ run, c.isDigit = false

/-- A text means the same in Persian digits exactly if no plain digit is quoted in a fault. -/
theorem recover?_inPersianDigits_eq_iff (text : Text) :
    recover? text.inPersianDigits = recover? text ↔ QuotesNoPlainDigit text := by
  rw [recover?_inPersianDigits, Attempt.mapError_eq_self_iff]
  constructor
  · intro same figures shown run unvalued
    have kept := same _ (recover?_eq_error_iff.2 ⟨figures, run, shown, unvalued, rfl⟩)
    exact Text.inPersianDigits_eq_self_iff.1 (Fault.numeral.inj kept).1
  · intro noDigit fault failed
    obtain ⟨figures, run, shown, unvalued, rfl⟩ := recover?_eq_error_iff.1 failed
    have kept := Text.inPersianDigits_eq_self_iff.2 (noDigit figures shown run unvalued)
    rw [Fault.inPersianDigits, kept]

section Notes

variable
  (system : CalendarSystem)
  (calendar : Option Calendar)
  (base : Text)
  (pattern : Option Text)
  (parts : DateParts)

/-- What the path of a note shows, up to the script of the figures in a fault, is told by the text of
its date in Persian digits. -/
theorem mapError_dateOf?_notePath (surroundings : Surroundings) :
    (((notePath system calendar base pattern parts).answer surroundings).bind
        (dateOf? base)).mapError Fault.inPersianDigits =
      ((((dateText system calendar pattern parts).answer surroundings).map
          Text.inPersianDigits).mapError Fault.inPersianDigits).bind
        fun rendered => recover? (withoutExtension (rendered.dropWhile isSeparator)) := by
  rw [answer_notePath]
  cases (dateText system calendar pattern parts).answer surroundings with
  | error fault => rfl
  | ok rendered => exact dateOf?_assemble_inPersianDigits base rendered

variable
  {first second : Locale}
  (sameDialect : first.dialect = second.dialect)
  (today : Day)

include sameDialect

/-- In two locales of one dialect the paths of a note show the same, up to the script of the figures
in a fault. -/
theorem sameScript_dateOf?_notePath :
    (((notePath system calendar base pattern parts).answer ⟨today, first⟩).bind
        (dateOf? base)).mapError Fault.inPersianDigits =
      (((notePath system calendar base pattern parts).answer ⟨today, second⟩).bind
        (dateOf? base)).mapError Fault.inPersianDigits := by
  rw [mapError_dateOf?_notePath, mapError_dateOf?_notePath, sameScript_dateText sameDialect]

/-- A note that has no path in one locale has none in another one of the same dialect, for the same
fault. -/
theorem notePath_error_of_sameDialect
    {fault : Fault}
    (failed : (notePath system calendar base pattern parts).answer ⟨today, first⟩ = .error fault) :
    (notePath system calendar base pattern parts).answer ⟨today, second⟩ = .error fault := by
  rw [answer_notePath, Attempt.map_eq_error_iff] at failed ⊢
  have same := sameScript_dateText sameDialect system calendar pattern parts today
  rw [failed] at same
  exact Attempt.map_eq_error_iff.1 same.symm

end Notes

/-- Persian digits never change what a text means, and so not what a path means either: the path of
a note shows the same with either digits, unless it shows figures without a value.  Then both runs
fail for the same figures, which each fault quotes in the script of its own text. -/
theorem dateOf?_notePath_digitScript
    (text : Text)
    (system : CalendarSystem)
    (calendar : Option Calendar)
    (base : Text)
    (pattern : Option Text)
    (parts : DateParts)
    (today : Day)
    (dialect : Dialect) :
    let fileIn := fun persianDigits =>
      (notePath system calendar base pattern parts).answer ⟨today, ⟨persianDigits, dialect⟩⟩
    let shownIn := fun persianDigits => (fileIn persianDigits).bind (dateOf? base)
    (recover? (text.map Text.toPersianDigit) = (recover? text).mapError Fault.inPersianDigits ∧
      (recover? (text.map Text.toPersianDigit) = recover? text ↔ QuotesNoPlainDigit text)) ∧
    (shownIn true).mapError Fault.inPersianDigits =
        (shownIn false).mapError Fault.inPersianDigits ∧
      ((∀ file inside, fileIn false = .ok file → insideBase? base file = some inside →
          ShowsValues inside) →
        shownIn true = shownIn false) := by
  intro fileIn shownIn
  refine ⟨⟨recover?_inPersianDigits text, recover?_inPersianDigits_eq_iff text⟩, ?_⟩
  have sameDialect : (⟨false, dialect⟩ : Locale).dialect = (⟨true, dialect⟩ : Locale).dialect := rfl
  have sameShown : (shownIn true).mapError Fault.inPersianDigits =
      (shownIn false).mapError Fault.inPersianDigits :=
    sameScript_dateOf?_notePath system calendar base pattern parts sameDialect.symm today
  refine ⟨sameShown, fun valued => ?_⟩
  cases written : fileIn false with
  | error fault =>
    have failed : fileIn true = .error fault :=
      notePath_error_of_sameDialect system calendar base pattern parts sameDialect today written
    show (fileIn true).bind _ = (fileIn false).bind _
    rw [failed, written]
  | ok file =>
    have assembled := written
    simp only [fileIn, answer_notePath, Attempt.map_eq_ok_iff] at assembled
    obtain ⟨rendered, -, rfl⟩ := assembled
    have inside := insideBase?_assemble base rendered
    obtain ⟨found, read⟩ := (valued _ _ written inside).exists_dateOf? inside
    have shownPlain : shownIn false = .ok found := by
      show (fileIn false).bind _ = _
      rw [written]
      exact read
    rw [shownPlain] at sameShown
    exact (Attempt.mapError_eq_ok_iff.1 sameShown).trans shownPlain.symm

/-- A fault quotes the figures as they stand in the text, in their own script. -/
theorem recover?_figuresWithoutValue :
    let text := "1403-W5𑽐".toList
    let persian := "۱۴۰۳-W۵𑽐".toList
    persian = text.map Text.toPersianDigit ∧
      recover? text = .error (.numeral "5𑽐".toList .malformed) ∧
      recover? persian = .error (.numeral "۵𑽐".toList .malformed) ∧
      (Fault.numeral "5𑽐".toList .malformed).message ≠
        (Fault.numeral "۵𑽐".toList .malformed).message := by
  exact ⟨by decide, by rfl, by rfl, by decide +kernel⟩

end Path

end Daybook
