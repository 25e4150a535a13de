import Daybook.Proofs.Path.BaseFolder
import Daybook.Proofs.Path.YearPattern
import Daybook.Proofs.Pattern.Separators

/-!
Contract: the separators of a note's path stand apart from each other.

Owns:
- texts in which no two separators touch, and how they are joined;
- the texts of pieces, which bring no separators of their own;
- the path of a note, from its base folder to its extension.

Does not own: the preparation of patterns.
-/

namespace Daybook

open Pattern

namespace Text

/-- Whether no two separators of a text touch. -/
def SeparatorsApart (text : Text) : Prop :=
  text.IsChain fun first second => ¬ (first = '/' ∧ second = '/')

theorem separatorsApart_iff (text : Text) : SeparatorsApart text ↔ ¬ ['/', '/'] <:+: text := by
  rw [SeparatorsApart, List.isChain_iff_forall_rel_of_append_cons_cons]
  constructor
  · rintro apart ⟨before, after, equal⟩
    exact @apart '/' '/' before after (by simpa using equal.symm) ⟨rfl, rfl⟩
  · rintro apart _ _ before after rfl ⟨rfl, rfl⟩
    exact apart ⟨before, after, by simp⟩

theorem separatorsApart_of_not_mem
    {text : Text}
    (flat : '/' ∉ text) :
    SeparatorsApart text := by
  rw [separatorsApart_iff]
  exact fun touch => flat (touch.subset List.mem_cons_self)

theorem head?_ne_of_not_mem
    {text : Text}
    (flat : '/' ∉ text) :
    text.head? ≠ some '/' :=
  fun head => flat (List.mem_of_mem_head? head)

theorem getLast?_ne_of_not_mem
    {text : Text}
    (flat : '/' ∉ text) :
    text.getLast? ≠ some '/' :=
  fun last => flat (List.mem_of_mem_getLast? last)

namespace SeparatorsApart

variable {first second : Text}

theorem append
    (apartFirst : SeparatorsApart first)
    (apartSecond : SeparatorsApart second)
    (between : first.getLast? = some '/' → second.head? ≠ some '/') :
    SeparatorsApart (first ++ second) := by
  refine List.isChain_append.2 ⟨apartFirst, apartSecond, ?_⟩
  rintro _ last _ opens ⟨rfl, rfl⟩
  exact between last opens

theorem cons
    (apart : SeparatorsApart second)
    {c : Char}
    (between : c = '/' → second.head? ≠ some '/') :
    SeparatorsApart (c :: second) := by
  refine List.isChain_cons.2 ⟨?_, apart⟩
  rintro _ head ⟨separates, rfl⟩
  exact between separates head

/-- One separator can stand between texts that have none at their ends. -/
theorem join
    (apartFirst : SeparatorsApart first)
    (ends : first.getLast? ≠ some '/')
    (apartSecond : SeparatorsApart second)
    (opens : second.head? ≠ some '/') :
    SeparatorsApart (first ++ '/' :: second) :=
  apartFirst.append (apartSecond.cons fun _ => opens) fun last => absurd last ends

end SeparatorsApart

end Text

open Text

/-! ### What pieces are replaced by -/

theorem separator_not_mem_ofInt (n : Int) : '/' ∉ Text.ofInt n := by
  intro member
  have unlisted : '/' ∉ ['/'] := Text.not_mem_of_mem_ofInt (by decide) member
  exact unlisted List.mem_cons_self

namespace Date

theorem separator_not_mem_digits
    (locale : Locale)
    (date : Date)
    {number : Text}
    (isNumber : ∀ c ∈ number, c.isDigit = true) :
    '/' ∉ date.digits locale number := by
  have figures : Text.Spells number (Text.digitsValue number) :=
    ⟨List.all_eq_true.2 fun c member => Text.isDigit_of_isAsciiDigit (isNumber c member), rfl⟩
  intro member
  have figure := List.all_eq_true.1 (spells_digits locale date figures).1 '/' member
  exact absurd figure (by decide)

/-- A token is replaced by a text without separators. -/
theorem tokenText_flat
    {locale : Locale}
    {date : Date}
    {token : Pattern.Token}
    {text : Text}
    (written : date.tokenText locale token = .ok text) :
    text ≠ [] ∧ '/' ∉ text := by
  rcases tokenText_cases written with ⟨number, given, isNumber, rfl⟩ | named
  · exact ⟨digits_ne_nil locale _ given, separator_not_mem_digits locale _ isNumber⟩
  · have gregorian : ∀ listed ∈ gregorianMonthNames, '/' ∉ listed := by decide
    have solar : ∀ listed ∈ locale.monthNames, '/' ∉ listed := by
      unfold Locale.monthNames
      cases locale.dialect <;> decide
    refine ⟨(monthName_noFigure named).1, ?_⟩
    rcases mem_monthNames named with listed | listed
    · exact gregorian text listed
    · exact solar text listed

/-- A piece brings a separator only where it is that separator. -/
theorem pieceText_flat
    {locale : Locale}
    {date : Date}
    {system : CalendarSystem}
    {text rest : Text}
    {piece : Piece}
    (opens : Opens system text piece rest)
    (sound : KeepsApart.IsSound piece)
    {shown : Text}
    (written : date.pieceText locale piece = .ok shown) :
    shown ≠ [] ∧ ('/' ∉ shown ∨ shown = ['/'] ∧ text = '/' :: rest) := by
  cases opens with
  | literal =>
    cases written
    exact ⟨sound.1, .inl sound.2⟩
  | marked | field | week | quarter =>
    rw [pieceText] at written
    exact (tokenText_flat written).imp_right .inl
  | @plain c =>
    cases written
    refine ⟨List.cons_ne_nil c [], ?_⟩
    by_cases separates : c = '/'
    · subst separates
      exact .inr ⟨rfl, rfl⟩
    · exact .inl (by simpa using Ne.symm separates)

/-- Separators that stand apart in a pattern do so in the text of a date, which begins with one only
where the pattern does. -/
theorem separatorsApart_piecesText
    {locale : Locale}
    {date : Date}
    (system : CalendarSystem)
    {text : Text}
    (apart : SeparatorsApart text)
    (sound : ∀ piece ∈ pieces system text, KeepsApart.IsSound piece)
    {shown : Text}
    (written : date.piecesText locale (pieces system text) = .ok shown) :
    SeparatorsApart shown ∧ (shown.head? = some '/' → text.head? = some '/') := by
  induction text using Opens.induction system generalizing shown with
  | nil =>
    rw [pieces] at written
    cases written
    exact ⟨List.isChain_nil, id⟩
  | opens text piece rest opens inductionHypothesis =>
    obtain ⟨taken, equal⟩ := opens.exists_append
    rw [opens.pieces_eq] at written sound
    obtain ⟨first, writtenFirst, remaining⟩ := Attempt.bind_eq_ok_iff.1 written
    obtain ⟨following, writtenFollowing, same⟩ := Attempt.bind_eq_ok_iff.1 remaining
    cases same
    have apartRest : SeparatorsApart rest := by
      rw [equal] at apart
      exact (List.isChain_append.1 apart).2.1
    obtain ⟨apartFollowing, opensFollowing⟩ := inductionHypothesis apartRest
      (fun other member => sound other (List.mem_cons_of_mem piece member)) writtenFollowing
    obtain ⟨given, flat | ⟨rfl, rfl⟩⟩ :=
      pieceText_flat opens (sound piece List.mem_cons_self) writtenFirst
    · refine ⟨(separatorsApart_of_not_mem flat).append apartFollowing fun last =>
        absurd last (getLast?_ne_of_not_mem flat), ?_⟩
      rw [List.head?_append_of_ne_nil _ given]
      exact fun head => absurd head (head?_ne_of_not_mem flat)
    · have noSecond : rest.head? ≠ some '/' := fun head =>
        (List.isChain_cons.1 apart).1 '/' head ⟨rfl, rfl⟩
      have between := mt opensFollowing noSecond
      exact ⟨apartFollowing.cons fun _ => between, fun _ => rfl⟩

/-- The text of a date in a pattern that keeps separators apart keeps them apart. -/
theorem separatorsApart_render
    {locale : Locale}
    {date : Date}
    {pattern : Text}
    (keepsApart : KeepsApart pattern)
    {shown : Text}
    (written : date.render locale pattern = .ok shown) :
    SeparatorsApart shown := by
  obtain ⟨separators, sound⟩ := (KeepsApart.iff_isSound date.system pattern).1 keepsApart
  exact (separatorsApart_piecesText date.system ((separatorsApart_iff pattern).2 separators) sound
    written).1

end Date

/-! ### The text of parts -/

/-- A calendar that repeats what it is asked keeps the numbers apart. -/
theorem Calendar.separatorsApart_echo
    {parts : DateParts}
    {surroundings : Surroundings}
    {moment : Moment}
    (answered : (Calendar.echo.moment parts).answer surroundings = .ok moment) :
    ∃ numbers, moment = .echo numbers ∧ SeparatorsApart numbers := by
  have month_flat : ∀ month, '/' ∉ shownNumber month ∧ shownNumber month ≠ [] := by
    intro month
    cases month with
    | none => decide
    | some n => exact ⟨separator_not_mem_ofInt n, Text.ofInt_ne_nil n⟩
  have whole : ∀ (year : Int) (month : Option Int) (day : Int),
      SeparatorsApart (Text.ofInt year ++ '/' :: shownNumber month ++ '/' :: Text.ofInt day) := by
    intro year month day
    obtain ⟨flat, given⟩ := month_flat month
    have inner := (separatorsApart_of_not_mem flat).join (getLast?_ne_of_not_mem flat)
      (separatorsApart_of_not_mem (separator_not_mem_ofInt day))
      (head?_ne_of_not_mem (separator_not_mem_ofInt day))
    rw [List.append_assoc, List.cons_append]
    refine (separatorsApart_of_not_mem (separator_not_mem_ofInt year)).join
      (getLast?_ne_of_not_mem (separator_not_mem_ofInt year)) inner ?_
    rw [List.head?_append_of_ne_nil _ given]
    exact head?_ne_of_not_mem flat
  unfold Calendar.moment at answered
  split at answered
  · rw [answer_atDate_echo, Attempt.map_eq_ok_iff] at answered
    obtain ⟨-, -, rfl⟩ := answered
    exact ⟨_, rfl, whole _ _ _⟩
  · rw [answer_atWeek_echo, Attempt.map_eq_ok_iff] at answered
    obtain ⟨-, -, rfl⟩ := answered
    refine ⟨_, rfl, separatorsApart_of_not_mem ?_⟩
    simp [separator_not_mem_ofInt]
  · rw [answer_atDate_echo, Attempt.map_eq_ok_iff] at answered
    obtain ⟨-, -, rfl⟩ := answered
    exact ⟨_, rfl, whole _ _ _⟩

namespace Path

/-- The text of parts keeps separators apart. -/
theorem separatorsApart_dateText
    (system : CalendarSystem)
    (calendar : Option Calendar)
    {pattern : Option Text}
    (keepsApart : ∀ given ∈ pattern, KeepsApart given)
    (parts : DateParts)
    (surroundings : Surroundings)
    {shown : Text}
    (written : (dateText system calendar pattern parts).answer surroundings = .ok shown) :
    SeparatorsApart shown := by
  have prepared : KeepsApart (prepare system parts.quarter (effectivePattern pattern parts)) :=
    keepsApart_prepare (of_effectivePattern keepsApart (by decide) parts) system parts.quarter
  cases resolved : calendar.getD (.ofSystem system none) with
  | ofSystem own today =>
    obtain ⟨-, date, -, rendered⟩ := (answer_dateText_of_resolved_eq_ok_iff resolved).1 written
    exact Date.separatorsApart_render prepared rendered
  | echo =>
    simp only [dateText, Consultation.answer_bind, Consultation.answer_ofExcept,
      Calendar.answer_orShared, resolved] at written
    obtain ⟨_, isChosen, written⟩ := Attempt.bind_eq_ok_iff.1 written
    simp only [Except.bind] at written
    obtain ⟨moment, asked, written⟩ := Attempt.bind_eq_ok_iff.1 written
    obtain ⟨_, isPrepared, written⟩ := Attempt.bind_eq_ok_iff.1 written
    obtain ⟨-, rfl⟩ := choosePattern_eq_ok_iff.1 isChosen
    obtain ⟨-, rfl⟩ := prepared_eq_ok_iff.1 isPrepared
    obtain ⟨numbers, rfl, apart⟩ := Calendar.separatorsApart_echo asked
    cases written
    have apartPattern := (separatorsApart_iff _).2 prepared.separators
    exact apart.append (apartPattern.cons (by simp)) (by simp)

theorem separatorsApart_assemble
    {base rendered : Text}
    (baseApart : SeparatorsApart (cleanBase base))
    (apart : SeparatorsApart rendered) :
    SeparatorsApart (assemble base rendered) := by
  have inside : SeparatorsApart (rendered.dropWhile isSeparator) :=
    apart.suffix (List.dropWhile_suffix isSeparator)
  have opens := head?_dropSeparators rendered
  have ends : (cleanBase base).getLast? ≠ some '/' := by
    intro last
    exact absurd ((isStripped_cleanBase base).ends '/' last) (by decide)
  have named : SeparatorsApart (withExtension (rendered.dropWhile isSeparator)) := by
    unfold withExtension
    split
    · exact inside
    · exact inside.append (separatorsApart_of_not_mem (by decide)) fun _ => by decide
  rw [assemble_eq_inFolder, inFolder]
  split
  · exact named
  · exact baseApart.join ends named (head?_withExtension opens)

/-- If neither the base folder nor the pattern has two separators side by side, and the literals of
the pattern are not empty and without separators, then the path of a note has no two separators side
by side. -/
theorem separatorsApart_notePath
    (system : CalendarSystem)
    (calendar : Option Calendar)
    {base : Text}
    (baseApart : ¬ ['/', '/'] <:+: cleanBase base)
    {pattern : Option Text}
    (keepsApart : ∀ given ∈ pattern, KeepsApart given)
    (parts : DateParts)
    (surroundings : Surroundings)
    {file : Text}
    (written : (notePath system calendar base pattern parts).answer surroundings = .ok file) :
    ¬ ['/', '/'] <:+: file := by
  rw [answer_notePath, Attempt.map_eq_ok_iff] at written
  obtain ⟨shown, writtenDate, rfl⟩ := written
  have apart := separatorsApart_dateText system calendar keepsApart parts surroundings writtenDate
  exact (separatorsApart_iff _).1
    (separatorsApart_assemble ((separatorsApart_iff _).2 baseApart) apart)

/-- Blanks and separators around the base folder, a separator at the beginning of the pattern, a
literal that holds an opening bracket, and a quarter below zero. -/
theorem separatorsApart_notePath_nestedBracket :
    ∃ file,
      (notePath .solar none " /notes/ ".toList (some "/YYYY/[s]Q/[Q[Q]Q".toList)
          ⟨1403, some 8, some 5, none, some (-1)⟩).answer
            ⟨⟨739000, by decide, by decide⟩, .standard⟩ = .ok file ∧
        file = "notes/1403/s-1/Q[Q3.md".toList ∧ ¬ ['/', '/'] <:+: file := by
  have written :
      (notePath .solar none " /notes/ ".toList (some "/YYYY/[s]Q/[Q[Q]Q".toList)
          ⟨1403, some 8, some 5, none, some (-1)⟩).answer
            ⟨⟨739000, by decide, by decide⟩, .standard⟩ =
        .ok "notes/1403/s-1/Q[Q3.md".toList := by
    rw [answer_notePath, answer_dateText (Calendar.standsFor_none .solar) (by decide)]
    simp only [Date.render, pieces_eq_piecesWithin]
    rfl
  have keepsApart : ∀ given ∈ some "/YYYY/[s]Q/[Q[Q]Q".toList, KeepsApart given := by
    rintro _ ⟨⟩
    decide
  exact ⟨_, written, rfl,
    separatorsApart_notePath .solar none (by decide) keepsApart _ _ written⟩

end Path

end Daybook
