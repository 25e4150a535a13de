import Daybook.Proofs.Calendar.GregorianWeek
import Daybook.Proofs.Calendar.SolarWeek
import Daybook.Proofs.Note

/-!
Contract: which week a year and a week lead to, and the path that its note gets.

Owns:
- the path of a note in the pattern of weeks;
- weeks in the solar calendar, which do not depend on the day of today;
- weeks in the Gregorian calendar, which lie in the year to which the week of today's date belongs
  there.

Does not own: how weeks are counted in either calendar.
-/

namespace Daybook

namespace Path

section Week

variable
  {system : CalendarSystem}
  {calendar : Option Calendar}
  {surroundings : Surroundings}
  {year week : Int}
  {date : Date}
  {fields : DateFields}
  {shown : Nat}

/-- The path of a week's note shows the year and the week of the date to which it leads.  A quarter
that is given besides only has to be short enough to be written. -/
theorem answer_notePath_week
    (standsFor : Calendar.StandsFor system calendar)
    (found : Date.ofWeek system (Calendar.todayIn surroundings calendar) year week = .ok date)
    (fieldsFound : date.fields = .ok fields)
    (weekFound : date.week = .ok shown)
    (base : Text)
    (month : Option Int)
    {quarter : Option Int}
    (writable : ∀ given ∈ quarter, Text.isWritable given = true) :
    (notePath system calendar base (some "YYYY-[W]WW".toList)
        ⟨year, month, none, some week, quarter⟩).answer surroundings =
      .ok (assemble base (date.digits surroundings.locale (Text.padded 4 fields.year) ++
        '-' :: 'W' :: date.digits surroundings.locale (Text.padded 2 shown))) := by
  have source : (Note.defaultLayout .weekly).source = "YYYY-[W]WW".toList :=
    Note.source_defaultLayout .weekly
  have weekText : Pattern.Segment.text surroundings.locale date quarter (.symbol .week) =
      .ok (date.digits surroundings.locale (Text.padded 2 shown)) := by
    rw [Pattern.Segment.text, Pattern.Symbol.text, weekFound]
    rfl
  have text : Pattern.Layout.text surroundings.locale date quarter (Note.defaultLayout .weekly) =
      .ok _ :=
    Pattern.Layout.text_append
      (Pattern.Layout.text_singleton (Pattern.Layout.text_year fieldsFound))
      (Pattern.Layout.text_append (Pattern.Layout.text_singleton rfl)
        (Pattern.Layout.text_append (Pattern.Layout.text_singleton rfl)
          (Pattern.Layout.text_singleton weekText)))
  rw [← source, notePath_source_eq_ok_iff standsFor (Note.wellFormed_defaultLayout system .weekly)
    (Note.isBlankText_defaultLayout .weekly)]
  exact ⟨writable, date, _, found, text, rfl⟩

/-- The path of a week's note is read back as the year and the week of the date to which that
leads. -/
theorem dateOf?_notePath_week
    (standsFor : Calendar.StandsFor system calendar)
    (found : Date.ofWeek system (Calendar.todayIn surroundings calendar) year week = .ok date)
    (fieldsFound : date.fields = .ok fields)
    (weekFound : date.week = .ok shown)
    (base : Text)
    (month : Option Int)
    {quarter : Option Int}
    (writable : ∀ given ∈ quarter, Text.isWritable given = true) :
    ∃ path,
      (notePath system calendar base (some "YYYY-[W]WW".toList)
          ⟨year, month, none, some week, quarter⟩).answer surroundings = .ok path ∧
        dateOf? base path = .ok (some ⟨fields.year, some 1, none, some shown, none⟩) := by
  have smallWeek : shown < 100 := by
    have bound := Date.week_le weekFound
    omega
  exact ⟨_, answer_notePath_week standsFor found fieldsFound weekFound base month writable,
    dateOf?_assemble_week base surroundings.locale date (Date.year_le fieldsFound) smallWeek⟩

end Week

end Path

namespace Date

/-! ### Solar weeks -/

/-- In the solar calendar, a week of a year leads to the weekday which the date of today has in that
year, counted from the Saturday on or before the new year day.  The weeks from the second to the
fifty-second are therefore found on any day, and with them the path of their notes, unless a quarter
too long to be written is given besides. -/
theorem ofWeek_solar
    {today : Day}
    {now : DateFields}
    (isNow : Solar.fields? today = some now)
    {year : Int}
    (isYear : 1 ≤ year ∧ year < Solar.lastYear) :
    ∃ newYearDay saturday moved : Day,
      Solar.toDay year 1 1 = .ok newYearDay ∧
        (saturday.weekday = 0 ∧ saturday.number ≤ newYearDay.number ∧
          newYearDay.number < saturday.number + 7) ∧
        Solar.toDay year now.month
            (min now.day (YearPlan.lengthOf (Solar.monthLengths year) now.month)) = .ok moved ∧
        (∀ (week : Int) (day : Day),
          (day.number : Int) = saturday.number + 7 * (week - 1) + moved.weekday →
            ofWeek .solar today year week = .ok ⟨.solar, day⟩) ∧
        ∀ week : Nat, 2 ≤ week → week ≤ 52 →
          (∃ date fields, ofWeek .solar today year week = .ok date ∧
            date.fields = .ok fields ∧ (fields.year : Int) = year ∧ date.week = .ok week) ∧
          ∀ calendar surroundings base month quarter, Calendar.StandsFor .solar calendar →
            Calendar.todayIn surroundings calendar = today →
              (∀ given ∈ quarter, Text.isWritable given = true) →
              (Path.notePath .solar calendar base (some "YYYY-[W]WW".toList)
                  ⟨year, month, none, some (week : Int), quarter⟩).answer surroundings =
                .ok (Path.assemble base
                  (surroundings.locale.digits (Text.padded 4 year.toNat) ++
                    '-' :: 'W' :: surroundings.locale.digits (Text.padded 2 week))) := by
  obtain ⟨newYearDay, isNewYear⟩ := (Solar.exists_newYearDay_iff year).2 (by omega)
  have newYearNumber := Solar.number_newYearDay isNewYear
  obtain ⟨saturday, saturdayNumber, isSaturday, starts, ends⟩ := Solar.exists_firstSaturday isYear
  obtain ⟨moved, isMoved, inYear⟩ := Solar.exists_inYear isNow isYear
  have movedDate := (Solar.fields?_toDay isMoved).2
  have yearFound : ((year.toNat : Nat) : Int) = year := Int.toNat_of_nonneg (by omega)
  have lands : ∀ (week : Int) (day : Day),
      (day.number : Int) = saturday.number + 7 * (week - 1) + moved.weekday →
        ofWeek .solar today year week = .ok ⟨.solar, day⟩ := by
    intro week day number
    rw [ofWeek_eq, Date.inYear, inYear]
    exact toWeek_solar movedDate (by rw [yearFound, ← saturdayNumber, number])
  refine ⟨newYearDay, saturday, moved, isNewYear, ⟨isSaturday, by omega, by omega⟩, isMoved, lands,
    fun week second last => ?_⟩
  obtain ⟨day, date, number, isDate, sameYear, sameWeek⟩ :=
    Solar.exists_day_of_week isYear ⟨second, last⟩ moved.weekday_lt
  have reached := lands week day (by rw [saturdayNumber, number])
  have fieldsFound : Date.fields ⟨.solar, day⟩ = .ok date := by
    simp only [Date.fields, isDate]
  have weekFound : Date.week ⟨.solar, day⟩ = .ok week := by
    simp only [Date.week, fieldsFound, ← sameWeek]
    rfl
  refine ⟨⟨_, date, reached, fieldsFound, sameYear, weekFound⟩, ?_⟩
  rintro calendar surroundings base month quarter standsFor rfl writable
  have yearShown : date.year = year.toNat := by omega
  have path := Path.answer_notePath_week standsFor reached fieldsFound weekFound base month writable
  rwa [yearShown] at path

/-- The leap day of today becomes the last day of a common year, and the tenth week is found from
there. -/
theorem ofWeek_solar_leapDay :
    let today : Day := ⟨739330, by decide, by decide⟩
    Solar.fields? today = some ⟨1403, 12, 30⟩ ∧
      ofWeek .solar today 1402 10 = .ok ⟨.solar, ⟨738663, by decide, by decide⟩⟩ ∧
      (∃ date fields, ofWeek .solar today 1402 10 = .ok date ∧
        date.fields = .ok fields ∧ (fields.year : Int) = 1402 ∧ date.week = .ok 10) ∧
      (Path.notePath .solar none "notes".toList (some "YYYY-[W]WW".toList)
          ⟨1402, some 1, none, some 10, none⟩).answer ⟨today, .standard⟩ =
        .ok (Path.assemble "notes".toList (Locale.standard.digits (Text.padded 4 1402) ++
          '-' :: 'W' :: Locale.standard.digits (Text.padded 2 10))) := by
  intro today
  have isNow : Solar.fields? today = some ⟨1403, 12, 30⟩ := by decide
  obtain ⟨newYearDay, saturday, moved, isNewYear, ⟨isSaturday, starts, ends⟩, isMoved, lands,
      inside⟩ :=
    ofWeek_solar isNow (show 1 ≤ (1402 : Int) ∧ 1402 < Solar.lastYear by decide)
  have newYearNumber : (newYearDay.number : Int) = 738600 := Solar.number_newYearDay isNewYear
  have lastDay : moved = ⟨738964, by decide, by decide⟩ := by
    cases isMoved
    rfl
  obtain ⟨reached, path⟩ := inside 10 (by decide) (by decide)
  refine ⟨isNow, lands 10 _ ?_, reached, ?_⟩
  · rw [lastDay]
    simp only [Day.weekday] at isSaturday ⊢
    omega
  · exact path none ⟨today, .standard⟩ _ (some 1) none (Calendar.standsFor_none .solar) rfl
      (by simp)

/-! ### Gregorian weeks -/

/-- In the Gregorian calendar, a week from the second to the fifty-first is found in the year to
which the week of today's date belongs, once that is moved to the year asked for.  This is the year
asked for, unless today lies in the first three days of January or the last three of December.  The
path of the week's note leads back to it, unless a quarter too long to be written is given
besides. -/
theorem ofWeek_gregorian
    (today : Day)
    {year : Int}
    (isYear : 2 ≤ year ∧ year ≤ 9998)
    {week : Nat}
    (isWeek : 2 ≤ week ∧ week ≤ 51) :
    ∃ moved day : Day,
      Gregorian.inYear today year = .ok moved ∧
        ofWeek .gregorian today year week = .ok ⟨.gregorian, day⟩ ∧
        Gregorian.week day = week ∧
        (Gregorian.fields day).year = Gregorian.weekYear moved ∧
        (((Gregorian.fields today).month = 1 → 4 ≤ (Gregorian.fields today).day) →
          ((Gregorian.fields today).month = 12 → (Gregorian.fields today).day ≤ 28) →
            (Gregorian.weekYear moved : Int) = year) ∧
        ∀ calendar surroundings base month quarter, Calendar.StandsFor .gregorian calendar →
          Calendar.todayIn surroundings calendar = today →
            (∀ given ∈ quarter, Text.isWritable given = true) →
            ∃ path,
              (Path.notePath .gregorian calendar base (some "YYYY-[W]WW".toList)
                  ⟨year, month, none, some (week : Int), quarter⟩).answer surroundings = .ok path ∧
                Path.dateOf? base path =
                  .ok (some ⟨Gregorian.weekYear moved, some 1, none, some week, none⟩) := by
  obtain ⟨moved, isMoved, inYear⟩ :=
    Gregorian.exists_inYear today (show 1 ≤ year ∧ year ≤ 9999 by omega)
  obtain ⟨day, reached, sameWeek, sameYear⟩ :=
    exists_toWeek_gregorian (Gregorian.weekYear_le_of_toDay isMoved isYear.2) isWeek
  have found : ofWeek .gregorian today year week = .ok ⟨.gregorian, day⟩ := by
    rw [ofWeek_eq, Date.inYear, inYear]
    exact reached
  refine ⟨moved, day, inYear, found, sameWeek, sameYear, ?_, ?_⟩
  · intro notFirst notLast
    have isDate := Gregorian.flaw?_fields today
    obtain ⟨-, isMonth, -⟩ := (Gregorian.flaw?_eq_none_iff _ _ _).1 isDate
    have long := (Gregorian.place_of_month year.toNat
      (show 1 ≤ (Gregorian.fields today).month ∧ (Gregorian.fields today).month ≤ 12 by omega)).1
    exact Gregorian.weekYear_of_toDay isMoved (by omega) (by omega)
  · rintro calendar surroundings base month quarter standsFor rfl writable
    have weekFound : Date.week ⟨.gregorian, day⟩ = .ok week := by
      rw [← sameWeek]
      rfl
    have path := Path.dateOf?_notePath_week standsFor found rfl weekFound base month writable
    rwa [sameYear] at path

theorem ofWeek_gregorian_november :
    let today : Day := ⟨739195, by decide, by decide⟩
    ∃ day : Day,
      ofWeek .gregorian today 2024 10 = .ok ⟨.gregorian, day⟩ ∧
        Gregorian.week day = 10 ∧ ((Gregorian.fields day).year : Int) = 2024 ∧
        ∃ path,
          (Path.notePath .gregorian none "notes".toList (some "YYYY-[W]WW".toList)
              ⟨2024, some 1, none, some 10, none⟩).answer ⟨today, .standard⟩ = .ok path ∧
            Path.dateOf? "notes".toList path = .ok (some ⟨2024, some 1, none, some 10, none⟩) := by
  intro today
  have isToday : Gregorian.fields today = ⟨2024, 11, 5⟩ := by decide
  obtain ⟨moved, day, -, found, sameWeek, sameYear, inner, paths⟩ :=
    ofWeek_gregorian today (show 2 ≤ (2024 : Int) ∧ 2024 ≤ 9998 by decide)
      (show 2 ≤ 10 ∧ 10 ≤ 51 by decide)
  have asked : (Gregorian.weekYear moved : Int) = 2024 := by
    refine inner ?_ ?_
    · rw [isToday]
      decide
    · rw [isToday]
      decide
  have path := paths none ⟨today, .standard⟩ "notes".toList (some 1) none
    (Calendar.standsFor_none .gregorian) rfl (by simp)
  rw [asked] at path
  exact ⟨day, found, sameWeek, by rw [sameYear, asked], path⟩

/-- On the last day of 2024, which lies in the first week of 2025, the tenth week of 2024 is that of
2025. -/
theorem ofWeek_newYearsEve :
    let today : Day := ⟨739251, by decide, by decide⟩
    Gregorian.fields today = ⟨2024, 12, 31⟩ ∧
      (∃ path,
        (Path.notePath .gregorian none [] (some "YYYY-[W]WW".toList)
            ⟨2024, some 1, none, some 10, none⟩).answer ⟨today, .standard⟩ = .ok path ∧
          Path.dateOf? [] path = .ok (some ⟨2025, some 1, none, some 10, none⟩)) ∧
      ¬ ∃ date fields, ofWeek .gregorian today 2024 10 = .ok date ∧
        date.fields = .ok fields ∧ fields.year = 2024 ∧ date.week = .ok 10 := by
  intro today
  have isToday : Gregorian.fields today = ⟨2024, 12, 31⟩ := by decide
  have unmoved : Gregorian.inYear today 2024 = .ok today := by
    have sameDay : Gregorian.moveToYear today 2024 = .ok today := by
      unfold Gregorian.moveToYear
      rw [isToday]
      rfl
    unfold Gregorian.inYear
    rw [sameDay]
    rfl
  have firstWeek : Date.week ⟨.gregorian, today⟩ = .ok 1 :=
    congrArg Except.ok (show Gregorian.week today = 1 by decide)
  have found : ofWeek .gregorian today 2024 10 =
      .ok ⟨.gregorian, ⟨739314, by decide, by decide⟩⟩ := by
    rw [ofWeek_eq, Date.inYear, unmoved]
    exact toWeek_eq_ok firstWeek (by decide)
  have fieldsFound : Date.fields ⟨.gregorian, ⟨739314, by decide, by decide⟩⟩ =
      .ok ⟨2025, 3, 4⟩ := by
    rfl
  refine ⟨isToday, ?_, ?_⟩
  · have foundToday : ofWeek .gregorian (Calendar.todayIn ⟨today, .standard⟩ none) 2024 10 =
        .ok ⟨.gregorian, ⟨739314, by decide, by decide⟩⟩ :=
      found
    exact Path.dateOf?_notePath_week (Calendar.standsFor_none .gregorian) foundToday fieldsFound
      rfl [] (some 1) (by simp)
  · rintro ⟨date, fields, reached, isFields, sameYear, -⟩
    cases found.symm.trans reached
    cases fieldsFound.symm.trans isFields
    cases sameYear

end Date

end Daybook
