import Daybook.Proofs.Path.Rendering
import Daybook.Proofs.Pattern.Brackets
import Daybook.Proofs.Pattern.Scanning

/-!
Contract: the folders of a pattern are rendered apart from each other.

Owns:
- the preparation and the pieces of a pattern on both sides of a separator;
- the text of parts in a pattern with a separator outside brackets.

Does not own: the joining of the text to a base folder.
-/

namespace Daybook

namespace Pattern

/-! ### The preparation on both sides -/

theorem head?_separator_ne
    {c : Char}
    (other : c ≠ '/')
    {rest : Text}
    (stops : rest.head? ≠ some c)
    (following : Text) :
    (rest ++ '/' :: following).head? ≠ some c := by
  cases rest with
  | nil => simpa using Ne.symm other
  | cons => exact stops

theorem runLength_separator
    {c : Char}
    (other : c ≠ '/')
    (text following : Text) :
    runLength c (text ++ '/' :: following) = runLength c text := by
  obtain ⟨rest, equal, stops⟩ := exists_run c text
  have run := runLength_replicate (runLength c text) (head?_separator_ne other stops following)
  rwa [← List.append_assoc, ← equal] at run

/-- No run goes on over a separator, and none is marked already after it. -/
theorem markRunsAfter_separator
    {chosen : Char → Nat → Bool}
    (spared : ∀ size, chosen '/' size = false)
    (before : Option Char)
    (text following : Text) :
    markRunsAfter chosen before (text ++ '/' :: following) =
      markRunsAfter chosen before text ++ '/' :: markRunsAfter chosen none following := by
  induction text generalizing before with
  | nil =>
    have afresh : markRunsAfter chosen (some '/') following =
        markRunsAfter chosen none following := by
      cases following with
      | nil => rfl
      | cons c rest =>
        by_cases separates : c = '/'
        · subst separates
          rw [markRunsAfter_copy (by rw [spared, Bool.and_false]),
            markRunsAfter_copy (by rw [spared, Bool.and_false])]
        · have opens : opensRun c (some '/') = opensRun c none := by
            rw [Bool.eq_iff_iff]
            simpa [opensRun, solarMark] using Ne.symm separates
          rw [markRunsAfter, markRunsAfter, opens]
    rw [List.nil_append, markRunsAfter_copy (by rw [spared, Bool.and_false]), afresh]
    rfl
  | cons c rest inductionHypothesis =>
    have selects : (opensRun c before && chosen c (runLength c (c :: rest ++ '/' :: following))) =
        (opensRun c before && chosen c (runLength c (c :: rest))) := by
      by_cases separates : c = '/'
      · subst separates
        rw [spared, spared]
      · rw [runLength_separator separates]
    rw [List.cons_append, markRunsAfter, markRunsAfter, ← List.cons_append, selects,
      inductionHypothesis]
    split <;> rfl

theorem lowerWeeks_separator
    (text following : Text) :
    lowerWeeks (text ++ '/' :: following) = lowerWeeks text ++ '/' :: lowerWeeks following := by
  fun_induction lowerWeeks text with
  | case1 rest inductionHypothesis => exact congrArg ('w' :: 'w' :: ·) inductionHypothesis
  | case2 c rest single inductionHypothesis =>
    rw [List.cons_append, List.cons_append, ← inductionHypothesis, lowerWeeks]
    -- A pair of week letters would have to stand before the separator as a whole.
    rintro after rfl starts
    cases rest with
    | nil => cases starts
    | cons d rest =>
      cases starts
      exact single _ rfl rfl
  | case3 => exact lowerWeeks_cons (by decide) following

/-- The preparation leaves all brackets alone. -/
theorem sameBrackets_prepare
    (system : CalendarSystem)
    (quarter : Option Int)
    (pattern : Text) :
    SameBrackets (prepare system quarter pattern) pattern := by
  have marked : SameBrackets (prepare system none pattern) pattern :=
    .of_filter (filter_prepare_none system pattern)
  cases quarter with
  | none => exact marked
  | some given =>
    have plain : ∀ c ∈ Text.ofInt given, isQuarterMarkup c = false :=
      fun _ => isQuarterMarkup_of_mem_ofInt
    exact (sameBrackets_substituteQuarterAt plain 0 (prepare system none pattern)).trans marked

theorem prepare_none_separator
    (system : CalendarSystem)
    (outer inner : Text) :
    prepare system none (outer ++ '/' :: inner) =
      prepare system none outer ++ '/' :: prepare system none inner := by
  have markedApart : mark system (outer ++ '/' :: inner) =
      mark system outer ++ '/' :: mark system inner := by
    cases system with
    | solar =>
      have spared : ∀ size, isSolarRun '/' size = false := isSolarRun_of_not_mem (by decide)
      rw [mark_solar, mark_solar, mark_solar]
      exact markRunsAfter_separator spared none outer inner
    | gregorian => rfl
  rw [prepare_none, markedApart, lowerWeeks_separator]
  rfl

/-- Two folders are prepared apart from each other, if the outer one closes its brackets. -/
theorem prepare_separator
    (system : CalendarSystem)
    (quarter : Option Int)
    {outer : Text}
    (closed : depthAfter 0 outer = 0)
    (inner : Text) :
    prepare system quarter (outer ++ '/' :: inner) =
      prepare system quarter outer ++ '/' :: prepare system quarter inner := by
  cases quarter with
  | none => exact prepare_none_separator system outer inner
  | some given =>
    have closedAfter : depthAfter 0 (prepare system none outer) = 0 := by
      rw [(sameBrackets_prepare system none outer).depthAfter_eq, closed]
    rw [prepare_some, prepare_none_separator, substituteQuarterAt_join, closedAfter]
    rfl

/-! ### The pieces on both sides -/

namespace Field

/-- A separator after a text neither ends a field token nor goes on with one. -/
theorem scan?_separator
    (text following : Text) :
    scan? (text ++ '/' :: following) =
      (scan? text).map fun found => (found.1, found.2 ++ '/' :: following) := by
  cases text with
  | nil => rfl
  | cons c rest =>
    obtain ⟨after, equal, stops⟩ := exists_run c (c :: rest)
    have positive : 0 < runLength c (c :: rest) := by
      rw [runLength_cons_self]
      exact Nat.succ_pos _
    by_cases separates : c = '/'
    · subst separates
      rfl
    · rw [equal, List.append_assoc,
        scan?_run positive (head?_separator_ne separates stops following),
        scan?_run positive stops, Option.map_map]
      simp only [Function.comp_def, List.append_assoc]

end Field

/-- A piece is read in the same way if a separator comes anywhere after it, unless a bracket waits
for its end. -/
theorem Opens.separator
    {system : CalendarSystem}
    {text rest : Text}
    {piece : Piece}
    (opens : Opens system text piece rest)
    (closed : ∀ after, text = '[' :: after → ']' ∈ after)
    (following : Text) :
    Opens system (text ++ '/' :: following) piece (rest ++ '/' :: following) := by
  cases opens with
  | @literal inner rest closing =>
    rw [List.cons_append, List.append_assoc, List.cons_append]
    exact .literal closing
  | marked isSolar scanned =>
    rw [List.cons_append]
    refine .marked isSolar ?_
    rw [Field.scan?_separator, scanned]
    rfl
  | field scanned =>
    refine .field ?_
    rw [Field.scan?_separator, scanned]
    rfl
  | week => exact .week
  | quarter => exact .quarter
  | @plain c _ unclosed unmarked noField notQuarter notWeek =>
    rw [List.cons_append]
    refine .plain ?_ ?_ ?_ notQuarter ?_
    · rintro rfl
      exact absurd (closed rest rfl) (unclosed rfl)
    · intro isSolar isMark
      rw [Field.scan?_separator, unmarked isSolar isMark]
      rfl
    · rw [← List.cons_append, Field.scan?_separator, noField]
      rfl
    · intro isWeek
      cases rest with
      | nil => simp
      | cons => exact notWeek isWeek

/-- Two folders are read apart from each other, if every bracket of the outer one is closed. -/
theorem pieces_separator
    (system : CalendarSystem)
    {outer : Text}
    (closed : ∀ before after, outer = before ++ '[' :: after → ']' ∈ after)
    (inner : Text) :
    pieces system (outer ++ '/' :: inner) =
      pieces system outer ++ .plain '/' :: pieces system inner := by
  induction outer using Opens.induction system with
  | nil =>
    have separator : Opens system ('/' :: inner) (.plain '/') inner :=
      .plain (by simp) (by simp [solarMark]) rfl (by decide) (by simp)
    rw [pieces, List.nil_append, separator.pieces_eq, List.nil_append]
  | opens text piece rest opens inductionHypothesis =>
    obtain ⟨taken, equal⟩ := opens.exists_append
    have closedRest : ∀ before after, rest = before ++ '[' :: after → ']' ∈ after := by
      rintro before after rfl
      exact closed (taken ++ before) after (by rw [equal, List.append_assoc])
    rw [(opens.separator (fun after starts => closed [] after starts) inner).pieces_eq,
      opens.pieces_eq, inductionHypothesis closedRest, List.cons_append]

end Pattern

/-! ### The text of both sides -/

open Pattern

/-- The text of a date in two folders is that in either of them, with the separator between. -/
theorem Date.render_separator
    (locale : Locale)
    (date : Date)
    (system : CalendarSystem)
    (quarter : Option Int)
    {outer : Text}
    (closed : depthAfter 0 outer = 0)
    (inner : Text) :
    date.render locale (prepare system quarter (outer ++ '/' :: inner)) = (do
      let first ← date.render locale (prepare system quarter outer)
      let second ← date.render locale (prepare system quarter inner)
      pure (first ++ '/' :: second)) := by
  have closedPrepared : depthAfter 0 (prepare system quarter outer) = 0 := by
    rw [(sameBrackets_prepare system quarter outer).depthAfter_eq, closed]
  have everyClosed : ∀ before after,
      prepare system quarter outer = before ++ '[' :: after → ']' ∈ after := by
    intro before after equal
    rw [equal] at closedPrepared
    exact closing_mem_of_depthAfter_eq_zero closedPrepared
  have readApart := pieces_separator date.system everyClosed (prepare system quarter inner)
  rw [prepare_separator system quarter closed, render, readApart, piecesText_append]
  show (do
    let first ← date.render locale (prepare system quarter outer)
    let second ← date.piecesText locale (.plain '/' :: _)
    pure (first ++ second)) = _
  rw [piecesText]
  show (do
    let first ← date.render locale (prepare system quarter outer)
    let second ← (do
      let following ← date.render locale (prepare system quarter inner)
      pure ('/' :: following))
    pure (first ++ second)) = _
  cases date.render locale (prepare system quarter outer) with
  | error fault => rfl
  | ok first => cases date.render locale (prepare system quarter inner) <;> rfl

namespace Path

theorem isBlankText_separator (outer inner : Text) :
    Text.isBlankText (outer ++ '/' :: inner) = false :=
  List.all_eq_false.2 ⟨'/', List.mem_append_right outer List.mem_cons_self, by decide⟩

/-- In a pattern of two folders, the outer one with its brackets closed, parts have a text exactly
if they have one in both folders, and it is those two with the separator between. -/
theorem dateText_separator_eq_ok_iff
    (system : CalendarSystem)
    {calendar : Option Calendar}
    (givesDates : calendar ≠ some .echo)
    {outer inner : Text}
    (notBlankOuter : Text.isBlankText outer = false)
    (notBlankInner : Text.isBlankText inner = false)
    (closed : depthAfter 0 outer = 0)
    (parts : DateParts)
    (surroundings : Surroundings)
    (shown : Text) :
    (dateText system calendar (some (outer ++ '/' :: inner)) parts).answer surroundings =
        .ok shown ↔
      ∃ first second,
        (dateText system calendar (some outer) parts).answer surroundings = .ok first ∧
          (dateText system calendar (some inner) parts).answer surroundings = .ok second ∧
          shown = first ++ '/' :: second := by
  obtain ⟨own, today, resolved⟩ :
      ∃ own today, calendar.getD (.ofSystem system none) = .ofSystem own today := by
    rcases calendar with _ | (⟨own, today⟩ | _)
    · exact ⟨system, none, rfl⟩
    · exact ⟨own, today, rfl⟩
    · exact absurd rfl givesDates
  have notBlank : Text.isBlankText (outer ++ '/' :: inner) = false :=
    isBlankText_separator outer inner
  simp only [answer_dateText_of_resolved_eq_ok_iff resolved, canWrite_some_iff notBlank,
    canWrite_some_iff notBlankOuter, canWrite_some_iff notBlankInner,
    effectivePattern_of_not_blank notBlank, effectivePattern_of_not_blank notBlankOuter,
    effectivePattern_of_not_blank notBlankInner]
  constructor
  · rintro ⟨writable, date, found, written⟩
    rw [date.render_separator surroundings.locale system parts.quarter closed] at written
    obtain ⟨first, writtenOuter, remaining⟩ := Attempt.bind_eq_ok_iff.1 written
    obtain ⟨second, writtenInner, same⟩ := Attempt.bind_eq_ok_iff.1 remaining
    cases same
    exact ⟨first, second, ⟨writable, date, found, writtenOuter⟩,
      ⟨writable, date, found, writtenInner⟩, rfl⟩
  · rintro ⟨first, second, ⟨writable, date, found, writtenOuter⟩,
      ⟨-, other, foundAgain, writtenInner⟩, rfl⟩
    cases found.symm.trans foundAgain
    refine ⟨writable, date, found, ?_⟩
    rw [date.render_separator surroundings.locale system parts.quarter closed, writtenOuter,
      writtenInner]
    rfl

/-- A bracket too many in the outer folder, and an unclosed one in the inner. -/
theorem dateText_strayBrackets :
    (dateText .solar none (some ("YYYY[[s]Q]]".toList ++ '/' :: "M[Q".toList))
        ⟨1403, some 8, some 15, none, some 4⟩).answer
          ⟨⟨739000, by decide, by decide⟩, ⟨false, .persianModern⟩⟩ =
      .ok "1403[s3]]/8[3".toList := by
  refine (dateText_separator_eq_ok_iff .solar (by decide) (by decide) (by decide) (by decide)
    _ _ _).2 ⟨"1403[s3]]".toList, "8[3".toList, ?_, ?_, rfl⟩
  all_goals
    rw [answer_dateText (Calendar.standsFor_none .solar) (by decide)]
    simp only [Date.render, pieces_eq_piecesWithin]
    rfl

end Path

end Daybook
