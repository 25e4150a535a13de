import Daybook.CommandLine.Running
import Daybook.Proofs.Writing

/-!
Contract: what a command line gives once it has been read.

Owns:
- the dialect before the command: the name of one, or no value at all;
- the locale that a command line chooses, and when it chooses none;
- the numbers and the calendar system of a command about a date, each of which may have been left
  without a value;
- the parts of a date that such numbers make.

Does not own: which lines can be read, or what a command does.
-/

namespace Daybook.CommandLine

open Attempt

/-! ### Values of switches -/

/-- A number as a switch holds it: one that was read, and so can be written, or none where the value
was left out. -/
def IsNumber (value : Value) : Prop :=
  value = noValue ∨ ∃ number : Int, Text.isWritable number = true ∧ value = .int number

/-- A calendar system as a switch holds it. -/
def IsSystem (value : Value) : Prop :=
  value = noValue ∨ ∃ system : CalendarSystem, value = .text system.name

theorem exists_of_mem_mapM
    {α β : Type}
    {change : α → Option β}
    {given : List α}
    {changed : List β}
    (all : given.mapM change = some changed)
    {result : β}
    (member : result ∈ changed) :
    ∃ value, change value = some result := by
  induction given generalizing changed with
  | nil =>
    cases all
    exact absurd member List.not_mem_nil
  | cons first rest inductionHypothesis =>
    rw [List.mapM_cons] at all
    obtain ⟨here, found, later⟩ := Option.bind_eq_some_iff.1 all
    obtain ⟨following, others, same⟩ := Option.bind_eq_some_iff.1 later
    cases same
    rcases List.mem_cons.1 member with rfl | inRest
    · exact ⟨first, found⟩
    · exact inductionHypothesis others inRest

/-- The last value of a switch was read, unless it was left out. -/
theorem noValue_or_read_of_lastOf
    {read? : Text → Option Value}
    {values : List (Option Text)}
    {last : Value}
    (found : lastOf read? values = .ok (some last)) :
    last = noValue ∨ ∃ text, read? text = some last := by
  unfold lastOf at found
  dsimp only at found
  split at found
  · rename_i all given
    have isLast := Except.ok.inj found
    obtain ⟨held, same⟩ := exists_of_mem_mapM given (List.mem_of_getLast? isLast)
    cases held with
    | none =>
      cases same
      exact .inl rfl
    | some text => exact .inr ⟨text, same⟩
  · cases found

theorem isNumber_of_lastOf
    {values : List (Option Text)}
    {last : Value}
    (found : lastOf number? values = .ok (some last)) :
    IsNumber last := by
  refine (noValue_or_read_of_lastOf found).imp_right ?_
  rintro ⟨text, read⟩
  unfold number? at read
  split at read
  · rename_i number numberRead
    cases read
    exact ⟨number, Text.isWritable_of_readInt numberRead, rfl⟩
  · cases read

theorem isSystem_of_lastOf
    {values : List (Option Text)}
    {last : Value}
    (found : lastOf system? values = .ok (some last)) :
    IsSystem last := by
  refine (noValue_or_read_of_lastOf found).imp_right ?_
  rintro ⟨text, read⟩
  unfold system? at read
  split at read
  · rename_i listed
    cases read
    simp only [List.contains_eq_mem, List.mem_cons, List.not_mem_nil, or_false,
      decide_eq_true_eq] at listed
    rcases listed with rfl | rfl
    · exact ⟨.solar, rfl⟩
    · exact ⟨.gregorian, rfl⟩
  · cases read

/-! ### The date of a command -/

/-- The record of a date with the given values. -/
def dateRecord (year month day week quarter : Value) : Record :=
  [(DateParts.yearName, year),
   (DateParts.monthName, month),
   (DateParts.dayName, day),
   (DateParts.weekName, week),
   (DateParts.quarterName, quarter)]

/-- A record of the date of a command: all its values are numbers, and day, week and quarter may not
be given. -/
inductive IsDate : Record → Prop where
  | record
    {year month day week quarter : Value}
    (isYear : IsNumber year)
    (isMonth : IsNumber month)
    (isDay : day = .null ∨ IsNumber day)
    (isWeek : week = .null ∨ IsNumber week)
    (isQuarter : quarter = .null ∨ IsNumber quarter) :
    IsDate (dateRecord year month day week quarter)

theorem isDate_of_readDate
    {gathered : Gathered}
    {date : Record}
    {system : Value}
    (read : readDate gathered = .ok (date, system)) :
    IsDate date ∧ IsSystem system := by
  obtain ⟨year, yearRead, read⟩ := bind_eq_ok_iff.1 read
  obtain ⟨month, monthRead, read⟩ := bind_eq_ok_iff.1 read
  obtain ⟨day, dayRead, read⟩ := bind_eq_ok_iff.1 read
  obtain ⟨week, weekRead, read⟩ := bind_eq_ok_iff.1 read
  obtain ⟨quarter, quarterRead, read⟩ := bind_eq_ok_iff.1 read
  obtain ⟨chosen, systemRead, read⟩ := bind_eq_ok_iff.1 read
  have optional : ∀ {values : List (Option Text)} {found : Option Value},
      lastOf number? values = .ok found →
        found.getD .null = .null ∨ IsNumber (found.getD .null) := by
    intro values found given
    cases found with
    | none => exact .inl rfl
    | some value => exact .inr (isNumber_of_lastOf given)
  dsimp only at read
  split at read
  · cases read
  · split at read
    · cases read
      refine ⟨.record (isNumber_of_lastOf yearRead) ?_ (optional dayRead) (optional weekRead)
        (optional quarterRead), ?_⟩
      · cases month with
        | none => exact .inr ⟨1, by decide, rfl⟩
        | some value => exact isNumber_of_lastOf monthRead
      · cases chosen with
        | none => exact .inr ⟨.solar, rfl⟩
        | some value => exact isSystem_of_lastOf systemRead
    · cases read

/-- Whether the record of a date lacks a number that is needed: a month without a value is the
first, and all other numbers have to have one. -/
def LacksNumber (date : Record) : Prop :=
  ∃ name ∈ [DateParts.yearName, DateParts.dayName, DateParts.weekName, DateParts.quarterName],
    Record.get? date name = some noValue

theorem lacksNumber_dateRecord
    (year month day week quarter : Value) :
    LacksNumber (dateRecord year month day week quarter) ↔
      year = noValue ∨ day = noValue ∨ week = noValue ∨ quarter = noValue := by
  have yearFound : Record.get? (dateRecord year month day week quarter) DateParts.yearName =
      some year := rfl
  have dayFound : Record.get? (dateRecord year month day week quarter) DateParts.dayName =
      some day := rfl
  have weekFound : Record.get? (dateRecord year month day week quarter) DateParts.weekName =
      some week := rfl
  have quarterFound : Record.get? (dateRecord year month day week quarter) DateParts.quarterName =
      some quarter := rfl
  simp only [LacksNumber, List.mem_cons, List.not_mem_nil, or_false, exists_eq_or_imp,
    exists_eq_left, yearFound, dayFound, weekFound, quarterFound, Option.some.injEq]

/-- The fault of a number without a value. -/
def valueAbsent : Fault :=
  .notNumeric noValue.typeName

theorem exists_wholeNumber
    {value : Value}
    (isNumber : IsNumber value)
    (given : value ≠ noValue) :
    ∃ number, DateParts.wholeNumber value = .ok number ∧ Text.isWritable number = true := by
  obtain ⟨number, writable, rfl⟩ := isNumber.resolve_left given
  exact ⟨number, rfl, writable⟩

theorem exists_optionalNumber
    {value : Value}
    (isNumber : value = .null ∨ IsNumber value)
    (given : value ≠ noValue) :
    ∃ number, DateParts.optionalNumber (some value) = .ok number ∧
      ∀ n ∈ number.toList, Text.isWritable n = true := by
  rcases isNumber with rfl | isNumber
  · exact ⟨none, rfl, by simp⟩
  · obtain ⟨number, writable, rfl⟩ := isNumber.resolve_left given
    exact ⟨some number, rfl, by simp [writable]⟩

/-- The number of a month; one without a value, or zero, is the first. -/
def monthNumber (value : Value) : Except Fault Int :=
  if value.isGiven then DateParts.wholeNumber value else pure 1

theorem exists_monthNumber
    {value : Value}
    (isNumber : IsNumber value) :
    ∃ month, monthNumber value = .ok month ∧ Text.isWritable month = true := by
  unfold monthNumber
  rcases isNumber with rfl | ⟨number, writable, rfl⟩
  · exact ⟨1, rfl, by decide⟩
  · split
    · exact ⟨number, rfl, writable⟩
    · exact ⟨1, rfl, by decide⟩

/-- The values of a date are read one by one. -/
theorem ofRecord_dateRecord
    (year month day week quarter : Value) :
    DateParts.ofRecord (dateRecord year month day week quarter) = (do
      let year ← DateParts.wholeNumber year
      let month ← monthNumber month
      let day ← DateParts.optionalNumber (some day)
      let week ← DateParts.optionalNumber (some week)
      let quarter ← DateParts.optionalNumber (some quarter)
      pure ⟨year, some month, day, week, quarter⟩) := by
  have monthFound : Record.get? (dateRecord year month day week quarter) DateParts.monthName =
      some month := rfl
  unfold DateParts.ofRecord monthNumber
  dsimp only
  rw [monthFound, Option.getD_some]
  cases month.isGiven <;> rfl

/-- The date of a command has its parts, a month among them, unless it lacks a number; and they can
all be written. -/
theorem exists_ofRecord
    {date : Record}
    (isDate : IsDate date)
    (complete : ¬ LacksNumber date) :
    ∃ parts, DateParts.ofRecord date = .ok parts ∧ parts.month ≠ none ∧
      ∀ n ∈ parts.numbers, Text.isWritable n = true := by
  obtain @⟨year, month, day, week, quarter, isYear, isMonth, isDay, isWeek, isQuarter⟩ := isDate
  rw [lacksNumber_dateRecord] at complete
  simp only [not_or] at complete
  obtain ⟨hasYear, hasDay, hasWeek, hasQuarter⟩ := complete
  obtain ⟨yearNumber, yearRead, yearWritable⟩ := exists_wholeNumber isYear hasYear
  obtain ⟨month, monthRead, monthWritable⟩ := exists_monthNumber isMonth
  obtain ⟨dayNumber, dayRead, dayWritable⟩ := exists_optionalNumber isDay hasDay
  obtain ⟨weekNumber, weekRead, weekWritable⟩ := exists_optionalNumber isWeek hasWeek
  obtain ⟨quarterNumber, quarterRead, quarterWritable⟩ :=
    exists_optionalNumber isQuarter hasQuarter
  refine ⟨⟨yearNumber, some month, dayNumber, weekNumber, quarterNumber⟩, ?_,
    Option.some_ne_none month, ?_⟩
  · rw [ofRecord_dateRecord, yearRead, monthRead, dayRead, weekRead, quarterRead]
    rfl
  · simp only [DateParts.numbers, Option.toList_some, List.forall_mem_cons, List.forall_mem_append,
      List.nil_append, List.cons_append]
    exact ⟨yearWritable, monthWritable, ⟨dayWritable, weekWritable⟩, quarterWritable⟩

theorem ofRecord_of_lacksNumber
    {date : Record}
    (isDate : IsDate date)
    (lacks : LacksNumber date) :
    DateParts.ofRecord date = .error valueAbsent := by
  obtain @⟨year, month, day, week, quarter, isYear, isMonth, isDay, isWeek, isQuarter⟩ := isDate
  rw [lacksNumber_dateRecord] at lacks
  rw [ofRecord_dateRecord]
  -- The numbers are read in this order, and the first one without a value decides.
  by_cases hasYear : year = noValue
  · rw [hasYear]
    rfl
  obtain ⟨yearNumber, yearRead, -⟩ := exists_wholeNumber isYear hasYear
  obtain ⟨month, monthRead, -⟩ := exists_monthNumber isMonth
  rw [yearRead, monthRead]
  by_cases hasDay : day = noValue
  · rw [hasDay]
    rfl
  obtain ⟨dayNumber, dayRead, -⟩ := exists_optionalNumber isDay hasDay
  rw [dayRead]
  by_cases hasWeek : week = noValue
  · rw [hasWeek]
    rfl
  obtain ⟨weekNumber, weekRead, -⟩ := exists_optionalNumber isWeek hasWeek
  rw [weekRead, ((lacks.resolve_left hasYear).resolve_left hasDay).resolve_left hasWeek]
  rfl

/-! ### Commands -/

/-- Whether the date and the calendar system of a command, if it has them, are those that switches
give. -/
def Command.IsSound : Command → Prop
  | .dateText _ date system => IsDate date ∧ IsSystem system
  | .notePath _ _ date system => IsDate date ∧ IsSystem system
  | .dateOf _ _ => True

theorem isSound_of_readCommand
    {name : Text}
    {line : List Text}
    {command : Command}
    (read : readCommand name line = .ok command) :
    command.IsSound := by
  unfold readCommand at read
  split at read
  · obtain ⟨gathered, -, read⟩ := bind_eq_ok_iff.1 read
    obtain ⟨⟨date, system⟩, dateRead, same⟩ := bind_eq_ok_iff.1 read
    cases same
    exact isDate_of_readDate dateRead
  · split at read
    · obtain ⟨gathered, -, read⟩ := bind_eq_ok_iff.1 read
      obtain ⟨⟨date, system⟩, dateRead, same⟩ := bind_eq_ok_iff.1 read
      cases same
      exact isDate_of_readDate dateRead
    · split at read
      · obtain ⟨gathered, -, same⟩ := bind_eq_ok_iff.1 read
        cases same
        trivial
      · cases read

/-! ### What stands before the command -/

namespace Leading

/-- Whether the dialect is one that there is, or was left without a value. -/
def IsSound (leading : Leading) : Prop :=
  leading.dialect = noValue ∨ ∃ dialect : Dialect, leading.dialect = .text dialect.name

theorem isSound_standard : standard.IsSound :=
  .inr ⟨Locale.standard.dialect, rfl⟩

theorem isSound_withDialect
    {leading changed : Leading}
    {held : Option Text}
    (given : leading.withDialect held = .ok changed) :
    changed.IsSound := by
  unfold withDialect at given
  split at given
  · cases given
    exact .inl rfl
  · split at given
    · rename_i name value found
      cases given
      obtain ⟨dialect, -, rfl⟩ := Option.map_eq_some_iff.1 found
      exact .inr ⟨dialect, rfl⟩
    · cases given

theorem IsSound.takeIn
    {leading changed : Leading}
    (sound : leading.IsSound)
    {words : List Word}
    (taken : leading.takeIn words = .ok changed) :
    changed.IsSound := by
  induction words generalizing leading with
  | nil =>
    cases taken
    exact sound
  | cons word rest inductionHypothesis =>
    cases word with
    | plain text => cases taken
    | separator => cases taken
    | unknown => cases taken
    | switch found =>
      rw [Leading.takeIn] at taken
      split at taken
      · cases taken
      · split at taken
        · have unchanged : ({ leading with persianDigits := true } : Leading).IsSound := sound
          exact inductionHypothesis unchanged taken
        · exact inductionHypothesis sound taken
    | attached found value =>
      obtain ⟨next, given, later⟩ := bind_eq_ok_iff.1 taken
      exact inductionHypothesis (isSound_withDialect given) later

end Leading

/-! ### The whole line -/

/-- What a command line gives is sound: the switches before the command, and the command. -/
structure Invocation.IsSound (invocation : Invocation) : Prop where
  leading : invocation.leading.IsSound
  command : invocation.command.IsSound

theorem isSound_of_readFrom
    {leading : Leading}
    (sound : leading.IsSound)
    {line : List Text}
    {invocation : Invocation}
    (read : readFrom leading line = .ok invocation) :
    invocation.IsSound := by
  fun_induction readFrom leading line with
  | case1 => cases read
  | case2 leading word name =>
    obtain ⟨command, commandRead, same⟩ := bind_eq_ok_iff.1 read
    cases same
    exact ⟨sound, isSound_of_readCommand commandRead⟩
  | case3 leading word words =>
    obtain ⟨changed, -, impossible⟩ := bind_eq_ok_iff.1 read
    cases impossible
  | case4 => cases read
  | case5 => cases read
  | case6 leading word next rest _ name =>
    obtain ⟨command, commandRead, same⟩ := bind_eq_ok_iff.1 read
    cases same
    exact ⟨sound, isSound_of_readCommand commandRead⟩
  | case7 leading word next rest _ words _ _ _ inductionHypothesis =>
    obtain ⟨prepared, -, read⟩ := bind_eq_ok_iff.1 read
    split at read
    · cases read
    · split at read
      · obtain ⟨changed, given, later⟩ := bind_eq_ok_iff.1 read
        exact inductionHypothesis changed (Leading.isSound_withDialect given) later
      · cases read
  | case8 leading word next rest _ words _ _ _ inductionHypothesis =>
    obtain ⟨changed, taken, later⟩ := bind_eq_ok_iff.1 read
    exact inductionHypothesis changed (sound.takeIn taken) later
  | case9 => cases read

theorem isSound_of_read
    {line : List Text}
    {invocation : Invocation}
    (read : CommandLine.read line = .ok invocation) :
    invocation.IsSound :=
  isSound_of_readFrom Leading.isSound_standard read

/-- A dialect that there is makes a locale, with the digits that were asked for. -/
theorem locale_of_text
    {invocation : Invocation}
    {dialect : Dialect}
    (named : invocation.leading.dialect = .text dialect.name) :
    invocation.locale = .ok ⟨invocation.leading.persianDigits, dialect⟩ := by
  rw [Invocation.locale, Locale.ofValues, named, Dialect.ofValue, Dialect.ofName?_name]
  rfl

theorem locale_of_noValue
    {invocation : Invocation}
    (absent : invocation.leading.dialect = noValue) :
    invocation.locale = .error (.unknownDialect noValue) := by
  rw [Invocation.locale, absent]
  rfl

end Daybook.CommandLine
