import Daybook.Proofs.Path.DayPattern
import Daybook.Proofs.Path.Joining
import Daybook.Proofs.Path.Rendering

/-!
Contract: the date that is written into a path is the date that the path shows.

Owns:
- numbers of a date as figures of their length and value;
- the date that a path around figures shows: a whole date, or a year, month, week or quarter;
- paths in patterns of whole dates, for every date that the calendar has.

Does not own: paths in other patterns, or the settings that choose one.
-/

namespace Daybook

open Pattern

namespace Date

theorem length_digits
    (locale : Locale)
    (date : Date)
    (text : Text) :
    (date.digits locale text).length = text.length := by
  unfold digits
  split
  · rfl
  · exact locale.length_digits text

theorem digits_ne_nil
    (locale : Locale)
    (date : Date)
    {text : Text}
    (given : text ≠ []) :
    date.digits locale text ≠ [] := by
  intro empty
  have noLength := congrArg List.length empty
  rw [length_digits] at noLength
  exact given (List.length_eq_zero_iff.1 noLength)

theorem spells_digits
    (locale : Locale)
    (date : Date)
    {text : Text}
    {n : Nat}
    (spells : Text.Spells text n) :
    Text.Spells (date.digits locale text) n := by
  unfold digits
  split
  · exact spells
  · exact locale.spells_digits spells

theorem spells_digits_padded
    (locale : Locale)
    (date : Date)
    (width n : Nat) :
    Text.Spells (date.digits locale (Text.padded width n)) n :=
  spells_digits locale date (Text.spells_padded width n)

theorem length_digits_padded
    (locale : Locale)
    (date : Date)
    {width n : Nat}
    (positive : 0 < width)
    (fits : n < Nat.pow 10 width) :
    (date.digits locale (Text.padded width n)).length = width := by
  rw [length_digits, Text.length_padded positive fits]

/-- The date that a token is read off. -/
def readFor (date : Date) : Pattern.Token → Date
  | .field system _ => ⟨system, date.day⟩
  | .week => date
  | .quarter => date

/-- A token is replaced by the digits of a number, or by the name of a month. -/
theorem tokenText_cases
    {locale : Locale}
    {date : Date}
    {token : Pattern.Token}
    {text : Text}
    (written : date.tokenText locale token = .ok text) :
    (∃ number, number ≠ [] ∧ (∀ c ∈ number, c.isDigit = true) ∧
        text = (date.readFor token).digits locale number) ∨
      (date.readFor token).monthName locale = .ok text := by
  have ofNumber : ∀ {α : Type} (own : Date) (read : Except Fault α) {spelled : α → Text},
      (∀ value, spelled value ≠ [] ∧ ∀ c ∈ spelled value, c.isDigit = true) →
      (do pure (own.digits locale (spelled (← read)))) = Except.ok text →
        ∃ number, number ≠ [] ∧ (∀ c ∈ number, c.isDigit = true) ∧
          text = own.digits locale number := by
    intro α own read spelled isNumber shown
    obtain ⟨value, -, same⟩ := Attempt.bind_eq_ok_iff.1 shown
    cases same
    exact ⟨spelled value, (isNumber value).1, (isNumber value).2, rfl⟩
  have padded : ∀ width n, Text.padded width n ≠ [] ∧
      ∀ c ∈ Text.padded width n, c.isDigit = true := fun width n =>
    ⟨Text.padded_ne_nil width n, fun _ => Text.isAsciiDigit_of_mem_padded⟩
  have plain : ∀ n, Text.ofNat n ≠ [] ∧ ∀ c ∈ Text.ofNat n, c.isDigit = true := fun n =>
    ⟨Text.ofNat_ne_nil n, fun _ => Text.isAsciiDigit_of_mem_ofNat⟩
  cases token with
  | week => exact .inl (ofNumber date date.week (padded 2) written)
  | quarter => exact .inl (ofNumber date date.quarter plain written)
  | field system field =>
    let own : Date := ⟨system, date.day⟩
    cases field with
    | monthName => exact .inr written
    | year => exact .inl (ofNumber own own.fields (fun fields => padded 4 fields.year) written)
    | paddedMonth =>
      exact .inl (ofNumber own own.fields (fun fields => padded 2 fields.month) written)
    | month => exact .inl (ofNumber own own.fields (fun fields => plain fields.month) written)
    | paddedDay => exact .inl (ofNumber own own.fields (fun fields => padded 2 fields.day) written)
    | day => exact .inl (ofNumber own own.fields (fun fields => plain fields.day) written)

end Date

namespace DayPattern

theorem spells_shownNumber
    (pads : Bool)
    (n : Nat) :
    Text.Spells (shownNumber pads n) n := by
  cases pads with
  | false => exact Text.spells_ofNat n
  | true => exact Text.spells_padded 2 n

theorem shownNumber_ne_nil
    (pads : Bool)
    (n : Nat) :
    shownNumber pads n ≠ [] := by
  cases pads with
  | false => exact Text.ofNat_ne_nil n
  | true => exact Text.padded_ne_nil 2 n

theorem length_shownNumber
    {pads : Bool}
    {n : Nat}
    (small : n < 100) :
    (shownNumber pads n).length = 2 ∨ (shownNumber pads n).length = 1 ∧ pads = false := by
  cases pads with
  | false => exact (Text.length_ofNat small).imp_right fun one => ⟨one, rfl⟩
  | true => exact .inl (Text.length_padded (by decide) small)

theorem spells_digits_shownNumber
    (locale : Locale)
    (date : Date)
    (pads : Bool)
    (n : Nat) :
    Text.Spells (date.digits locale (shownNumber pads n)) n :=
  Date.spells_digits locale date (spells_shownNumber pads n)

end DayPattern

namespace Path

/-! ### Figures -/

theorem DateFigures.number_of_spells
    {figures : Text}
    {n : Nat}
    (spells : Text.Spells figures n) :
    number figures = .ok n := by
  rw [number, if_pos spells.1, spells.2]

theorem recover?_of_shown?
    {text : Text}
    {figures : DateFigures}
    {parts : DateParts}
    (found : shown? text = some figures)
    (read : figures.parts = .ok parts) :
    recover? text = .ok (some parts) := by
  rw [recover?, found]
  show (do pure (some (← figures.parts))) = _
  rw [read]
  rfl

theorem OpensWithFigure.head?_ne
    {text : Text}
    (opens : OpensWithFigure text) :
    text.head? ≠ some '/' := by
  obtain ⟨c, rest, rfl, figure⟩ := opens
  rintro ⟨⟩
  exact absurd figure (by decide)

theorem not_mem_extension
    {c : Char}
    (figure : Text.isFigure c = true) :
    c ∉ extension := by
  intro member
  have foreign : ∀ other ∈ extension, Text.isFigure other = false := by decide
  rw [foreign c member] at figure
  cases figure

/-- Only figures make up a number of a date. -/
theorem not_mem_of_spells
    {figures : Text}
    {n : Nat}
    (spells : Text.Spells figures n)
    {c : Char}
    (noFigure : Text.isFigure c = false) :
    c ∉ figures := by
  intro member
  have figure := List.all_eq_true.1 spells.all_isFigure c member
  rw [noFigure] at figure
  cases figure

theorem isFigure_of_mem_reserved :
    ∀ c ∈ reserved, Text.isFigure c = false ∧ c ≠ '/' ∧ c ≠ '-' := by
  decide

theorem not_mem_joint
    {c : Char}
    (noJoint : c ≠ '/' ∧ c ≠ '-')
    (joint : Joint) :
    c ∉ joint.text := by
  cases joint <;> simp [Joint.text, noJoint]

theorem opensWithFigure_year
    (locale : Locale)
    (date : Date)
    (year : Nat)
    (rest : Text) :
    OpensWithFigure (date.digits locale (Text.padded 4 year) ++ rest) :=
  opensWithFigure_append (Date.digits_ne_nil locale date (Text.padded_ne_nil 4 year))
    (Date.spells_digits_padded locale date 4 year).all_isFigure rest

/-- A path that was built from a text between two figures shows the date of that text. -/
theorem dateOf?_assemble
    (base : Text)
    {text : Text}
    (opens : OpensWithFigure text)
    (ends : EndsWithFigure text)
    {figures : DateFigures}
    (found : shown? text = some figures)
    {parts : DateParts}
    (read : figures.parts = .ok parts) :
    dateOf? base (assemble base text) = .ok (some parts) := by
  obtain ⟨last, isLast, figure⟩ := ends
  obtain ⟨before, after, noBefore, noAfter, inside⟩ :=
    insideBase?_assemble_around base [] [] opens.head?_ne isLast (not_mem_extension figure)
  cases List.suffix_nil.1 noBefore
  cases List.prefix_nil.1 noAfter
  simp only [List.nil_append, List.append_nil] at inside
  rw [dateOf?, inside]
  exact recover?_of_shown? found read

/-! ### Whole dates -/

/-- The text of a whole date means nothing to a pattern. -/
theorem not_mem_shown
    (pattern : DayPattern)
    (locale : Locale)
    (date : Date)
    (fields : DateFields)
    {c : Char}
    (letter : c ∈ reserved) :
    c ∉ pattern.shown locale date fields := by
  obtain ⟨noFigure, noJoint⟩ := isFigure_of_mem_reserved c letter
  simp only [DayPattern.shown, List.mem_append, not_or]
  exact ⟨not_mem_of_spells (Date.spells_digits_padded locale date 4 _) noFigure,
    not_mem_joint noJoint _,
    not_mem_of_spells (DayPattern.spells_digits_shownNumber locale date _ _) noFigure,
    not_mem_joint noJoint _,
    not_mem_of_spells (DayPattern.spells_digits_shownNumber locale date _ _) noFigure⟩

section WholeDate

variable
  (pattern : DayPattern)
  (locale : Locale)
  (date : Date)
  {fields : DateFields}
  (smallYear : fields.year ≤ 9999)
  (smallMonth : fields.month < 100)
  (smallDay : fields.day < 100)

include smallYear smallMonth smallDay

/-- The text of a whole date is read as its figures, which no figure may follow. -/
theorem dateAt?_shown
    {rest : Text}
    (stops : StopsFigures rest) :
    dateAt? (pattern.shown locale date fields ++ rest) =
      some ⟨date.digits locale (Text.padded 4 fields.year),
        some (date.digits locale (DayPattern.shownNumber pattern.padsMonth fields.month)),
        some (date.digits locale (DayPattern.shownNumber pattern.padsDay fields.day)),
        none, none⟩ := by
  have fourYear : (date.digits locale (Text.padded 4 fields.year)).length = 4 :=
    Date.length_digits_padded locale date (by decide) (Nat.lt_succ_of_le smallYear)
  have countMonth :
      (date.digits locale (DayPattern.shownNumber pattern.padsMonth fields.month)).length = 2 ∨
        (date.digits locale (DayPattern.shownNumber pattern.padsMonth fields.month)).length = 1 ∧
          pattern.second ≠ .nothing := by
    rw [Date.length_digits]
    refine (DayPattern.length_shownNumber smallMonth).imp_right ?_
    rintro ⟨one, unpadded⟩
    refine ⟨one, pattern.apart.resolve_left ?_⟩
    rw [unpadded]
    exact Bool.false_ne_true
  have countDay :
      (date.digits locale (DayPattern.shownNumber pattern.padsDay fields.day)).length = 2 ∨
        (date.digits locale (DayPattern.shownNumber pattern.padsDay fields.day)).length = 1 := by
    rw [Date.length_digits]
    exact (DayPattern.length_shownNumber smallDay).imp_right And.left
  simp only [DayPattern.shown, List.append_assoc]
  exact dateAt?_day fourYear (Date.spells_digits_padded locale date 4 _).all_isFigure pattern.first
    countMonth (DayPattern.spells_digits_shownNumber locale date _ _).all_isFigure
    countDay (DayPattern.spells_digits_shownNumber locale date _ _).all_isFigure stops

/-- A whole date among quiet text is the date that the text shows. -/
theorem recover?_shown
    {before after : Text}
    (quietBefore : IsQuietText before)
    (quietAfter : IsQuietText after) :
    recover? (before ++ (pattern.shown locale date fields ++ after)) =
      .ok (some ⟨fields.year, some fields.month, some fields.day, none, none⟩) := by
  have noLetter : ∀ c ∈ reserved, c ∉ before ++ (pattern.shown locale date fields ++ after) := by
    intro c letter
    simp only [List.mem_append, not_or]
    exact ⟨fun member => (quietBefore c member).1 letter,
      not_mem_shown pattern locale date fields letter,
      fun member => (quietAfter c member).1 letter⟩
  have stops : StopsFigures after := fun c head =>
    (quietAfter c (List.mem_of_mem_head? head)).2
  have here := dateAt?_shown pattern locale date smallYear smallMonth smallDay stops
  have passed := leftmost?_append_of_noFigure (fun _ rest noFigure => dateAt?_eq_none noFigure rest)
    (fun c member => (quietBefore c member).2) (pattern.shown locale date fields ++ after)
  have leftmost := passed.trans (leftmost?_of_some here)
  -- Weeks and quarters are looked for first, and fail for want of their letters.
  have found := shown?_of_leftmost?_dateAt? (noLetter 'W' (by decide)) (noLetter 'Q' (by decide))
    leftmost
  refine recover?_of_shown? found ?_
  simp only [DateFigures.parts, DateFigures.optionalNumber,
    DateFigures.number_of_spells (Date.spells_digits_padded locale date 4 _),
    DateFigures.number_of_spells (DayPattern.spells_digits_shownNumber locale date _ _)]
  rfl

/-- The path around a whole date and quiet text shows that date. -/
theorem dateOf?_assemble_shown
    (base : Text)
    {front back : Text}
    (quietFront : IsQuietText front)
    (quietBack : IsQuietText back) :
    dateOf? base (assemble base (front ++ (pattern.shown locale date fields ++ back))) =
      .ok (some ⟨fields.year, some fields.month, some fields.day, none, none⟩) := by
  have givenDay := Date.digits_ne_nil locale date
    (DayPattern.shownNumber_ne_nil pattern.padsDay fields.day)
  have opens : (pattern.shown locale date fields).head? ≠ some '/' :=
    (opensWithFigure_year locale date fields.year _).head?_ne
  obtain ⟨last, isLast, figure⟩ := endsWithFigure_append
    (date.digits locale (Text.padded 4 fields.year) ++ (pattern.first.text ++
      (date.digits locale (DayPattern.shownNumber pattern.padsMonth fields.month) ++
        pattern.second.text)))
    givenDay (DayPattern.spells_digits_shownNumber locale date _ _).all_isFigure
  simp only [List.append_assoc] at isLast
  obtain ⟨before, after, isSuffix, isPrefix, inside⟩ :=
    insideBase?_assemble_around base front back opens isLast (not_mem_extension figure)
  rw [dateOf?, inside]
  exact recover?_shown pattern locale date smallYear smallMonth smallDay
    (fun c member => quietFront c (isSuffix.subset member))
    (fun c member => quietBack c (isPrefix.subset member))

end WholeDate

/-- The same for the date of the calendar that was asked for. -/
theorem dateOf?_assemble_hasDate
    (pattern : DayPattern)
    (locale : Locale)
    (date : Date)
    {system : CalendarSystem}
    {year month day : Int}
    (isDate : system.HasDate year month day)
    (base : Text)
    {front back : Text}
    (quietFront : IsQuietText front)
    (quietBack : IsQuietText back) :
    dateOf? base (assemble base (front ++
        (pattern.shown locale date ⟨year.toNat, month.toNat, day.toNat⟩ ++ back))) =
      .ok (some ⟨year, some month, some day, none, none⟩) := by
  obtain ⟨isYear, isMonth, isDay⟩ := isDate.bounds
  have smallYear : year.toNat ≤ 9999 := by omega
  have smallMonth : month.toNat < 100 := by omega
  have smallDay : day.toNat < 100 := by omega
  rw [dateOf?_assemble_shown pattern locale date smallYear smallMonth smallDay base quietFront
    quietBack]
  dsimp only
  rw [Int.toNat_of_nonneg (by omega), Int.toNat_of_nonneg (by omega),
    Int.toNat_of_nonneg (by omega)]

/-! ### Coarser dates -/

section Coarser

variable
  (base : Text)
  (locale : Locale)
  (date : Date)
  {year : Nat}
  (smallYear : year ≤ 9999)

include smallYear

theorem length_digits_year : (date.digits locale (Text.padded 4 year)).length = 4 :=
  Date.length_digits_padded locale date (by decide) (Nat.lt_succ_of_le smallYear)

theorem dateOf?_assemble_year :
    dateOf? base (assemble base (date.digits locale (Text.padded 4 year))) =
      .ok (some ⟨year, some 1, none, none, none⟩) := by
  have spells := Date.spells_digits_padded locale date 4 year
  have opens := opensWithFigure_year locale date year []
  rw [List.append_nil] at opens
  have ends := endsWithFigure_append []
    (Date.digits_ne_nil locale date (Text.padded_ne_nil 4 year)) spells.all_isFigure
  have here := dateAt?_year (length_digits_year locale date smallYear) spells.all_isFigure
  have found := shown?_of_leftmost?_dateAt? (not_mem_of_spells spells (by decide))
    (not_mem_of_spells spells (by decide)) (leftmost?_of_some here)
  refine dateOf?_assemble base opens ends found ?_
  simp only [DateFigures.parts, DateFigures.optionalNumber, DateFigures.number_of_spells spells]
  rfl

theorem dateOf?_assemble_month
    (joint : Joint)
    {month : Nat}
    (small : month < 100) :
    dateOf? base (assemble base (date.digits locale (Text.padded 4 year) ++
        (joint.text ++ date.digits locale (Text.padded 2 month)))) =
      .ok (some ⟨year, some month, none, none, none⟩) := by
  have spellsYear := Date.spells_digits_padded locale date 4 year
  have spellsMonth := Date.spells_digits_padded locale date 2 month
  have opens := opensWithFigure_year locale date year
    (joint.text ++ date.digits locale (Text.padded 2 month))
  have ends := endsWithFigure_append (date.digits locale (Text.padded 4 year) ++ joint.text)
    (Date.digits_ne_nil locale date (Text.padded_ne_nil 2 month)) spellsMonth.all_isFigure
  rw [List.append_assoc] at ends
  have noLetter : ∀ c ∈ reserved, c ∉ date.digits locale (Text.padded 4 year) ++
      (joint.text ++ date.digits locale (Text.padded 2 month)) := by
    intro c letter
    obtain ⟨noFigure, noJoint⟩ := isFigure_of_mem_reserved c letter
    simp only [List.mem_append, not_or]
    exact ⟨not_mem_of_spells spellsYear noFigure, not_mem_joint noJoint joint,
      not_mem_of_spells spellsMonth noFigure⟩
  have here := dateAt?_month (length_digits_year locale date smallYear) spellsYear.all_isFigure joint
    (Date.length_digits_padded locale date (by decide) small) spellsMonth.all_isFigure
  have found := shown?_of_leftmost?_dateAt? (noLetter 'W' (by decide)) (noLetter 'Q' (by decide))
    (leftmost?_of_some here)
  refine dateOf?_assemble base opens ends found ?_
  simp only [DateFigures.parts, DateFigures.optionalNumber,
    DateFigures.number_of_spells spellsYear, DateFigures.number_of_spells spellsMonth]
  rfl

theorem dateOf?_assemble_week
    {week : Nat}
    (small : week < 100) :
    dateOf? base (assemble base (date.digits locale (Text.padded 4 year) ++
        ('-' :: 'W' :: date.digits locale (Text.padded 2 week)))) =
      .ok (some ⟨year, some 1, none, some week, none⟩) := by
  have spellsYear := Date.spells_digits_padded locale date 4 year
  have spellsWeek := Date.spells_digits_padded locale date 2 week
  have opens := opensWithFigure_year locale date year
    ('-' :: 'W' :: date.digits locale (Text.padded 2 week))
  have ends := endsWithFigure_append (date.digits locale (Text.padded 4 year) ++ ['-', 'W'])
    (Date.digits_ne_nil locale date (Text.padded_ne_nil 2 week)) spellsWeek.all_isFigure
  rw [List.append_assoc] at ends
  have found := weekAt?_append (length_digits_year locale date smallYear) spellsYear.all_isFigure
    (Date.length_digits_padded locale date (by decide) small) spellsWeek.all_isFigure
  refine dateOf?_assemble base opens ends (shown?_of_weekAt? found) ?_
  simp only [DateFigures.parts, DateFigures.optionalNumber,
    DateFigures.number_of_spells spellsYear, DateFigures.number_of_spells spellsWeek]
  rfl

/-- A quarter is written in plain digits, whatever the locale. -/
theorem dateOf?_assemble_quarter
    {quarter : Nat}
    (small : quarter < 10) :
    dateOf? base (assemble base (date.digits locale (Text.padded 4 year) ++
        ('-' :: 'Q' :: Text.ofNat quarter))) =
      .ok (some ⟨year, some 1, none, none, some quarter⟩) := by
  have spellsYear := Date.spells_digits_padded locale date 4 year
  have spellsQuarter := Text.spells_ofNat quarter
  have opens := opensWithFigure_year locale date year ('-' :: 'Q' :: Text.ofNat quarter)
  have ends := endsWithFigure_append (date.digits locale (Text.padded 4 year) ++ ['-', 'Q'])
    (Text.ofNat_ne_nil quarter) spellsQuarter.all_isFigure
  rw [List.append_assoc] at ends
  have noWeek : 'W' ∉ date.digits locale (Text.padded 4 year) ++
      ('-' :: 'Q' :: Text.ofNat quarter) := by
    simp only [List.mem_append, List.mem_cons, not_or]
    exact ⟨not_mem_of_spells spellsYear (by decide), by decide, by decide,
      not_mem_of_spells spellsQuarter (by decide)⟩
  have one : Text.ofNat quarter = [Nat.digitChar quarter] := Nat.toDigits_of_lt_base small
  rw [one] at opens ends noWeek spellsQuarter ⊢
  have figure : Text.isFigure (Nat.digitChar quarter) = true :=
    List.all_eq_true.1 spellsQuarter.all_isFigure _ List.mem_cons_self
  have found := quarterAt?_append (length_digits_year locale date smallYear)
    spellsYear.all_isFigure figure []
  refine dateOf?_assemble base opens ends (shown?_of_quarterAt? noWeek found) ?_
  simp only [DateFigures.parts, DateFigures.optionalNumber,
    DateFigures.number_of_spells spellsYear, DateFigures.number_of_spells spellsQuarter]
  rfl

end Coarser

/-- Every date of the calendar is found again in the path that shows it, in every pattern of whole
dates among text without figures and letters of tokens. -/
theorem exists_dateOf?_notePath
    {system : CalendarSystem}
    {calendar : Option Calendar}
    (standsFor : Calendar.StandsFor system calendar)
    (base : Text)
    {front back : Layout}
    (quietFront : front.IsQuiet)
    (quietBack : back.IsQuiet)
    (unmarked : system = .solar → front.source.getLast? ≠ some solarMark)
    (pattern : DayPattern)
    {year month day : Int}
    (isDate : system.HasDate year month day)
    (surroundings : Surroundings) :
    ∃ file,
      (notePath system calendar base (some (front.source ++ (pattern.source ++ back.source)))
          ⟨year, some month, some day, none, none⟩).answer surroundings = .ok file ∧
        dateOf? base file = .ok (some ⟨year, some month, some day, none, none⟩) := by
  have source : front.source ++ (pattern.source ++ back.source) =
      Layout.source (front ++ (pattern.layout ++ back)) := by
    rw [← pattern.source_layout]
    simp only [Layout.source, Layout.spelled, List.flatMap_append]
  have notBlank : Text.isBlankText (Layout.source (front ++ (pattern.layout ++ back))) = false := by
    rw [← source]
    refine List.all_eq_false.2 ⟨'Y', ?_, by decide⟩
    exact List.mem_append_right _ (List.mem_append_left _ List.mem_cons_self)
  have wellFormed := pattern.wellFormed_around quietFront quietBack unmarked
  obtain ⟨date, built⟩ := Date.exists_ofParts isDate
  obtain ⟨_, same, -, found⟩ := Date.fields_ofParts built
  cases same
  obtain ⟨frontText, frontWritten, quietBefore⟩ :=
    quietFront.exists_text surroundings.locale date none
  obtain ⟨backText, backWritten, quietAfter⟩ := quietBack.exists_text surroundings.locale date none
  have layoutWritten := Layout.text_append frontWritten
    (Layout.text_append (pattern.text_layout surroundings.locale found none) backWritten)
  have dateFound : Date.ofDateParts system (Calendar.todayIn surroundings calendar)
      ⟨year, some month, some day, none, none⟩ = .ok date := built
  have shows := dateOf?_assemble_hasDate pattern surroundings.locale date isDate base quietBefore
    quietAfter
  refine ⟨_, ?_, shows⟩
  rw [source, notePath_source_eq_ok_iff standsFor wellFormed notBlank]
  exact ⟨by simp, date, _, dateFound, layoutWritten, rfl⟩

/-- The leap day, its month unpadded, between a literal folder and a title. -/
theorem exists_dateOf?_leapDay :
    ∃ file,
      (notePath .solar none " log/".toList
          (some (Layout.source [.literal ['s'], .plain ['/']] ++
            (DayPattern.source ⟨.nothing, false, .slash, false, .inr (by decide)⟩ ++
              Layout.source [.plain [' ', 'v']])))
          ⟨1403, some 12, some 30, none, none⟩).answer
            ⟨⟨739000, by decide, by decide⟩, ⟨true, .english⟩⟩ = .ok file ∧
        dateOf? " log/".toList file = .ok (some ⟨1403, some 12, some 30, none, none⟩) :=
  exists_dateOf?_notePath (Calendar.standsFor_none .solar) " log/".toList
    (by decide) (by decide) (by decide)
    ⟨.nothing, false, .slash, false, .inr (by decide)⟩ (by decide)
    ⟨⟨739000, by decide, by decide⟩, ⟨true, .english⟩⟩

end Path

end Daybook
