import Daybook.Proofs.Path.Figures

/-!
Contract: the date that a text shows, told by how the text can be taken apart.

Owns:
- the forms of a date as ways to write it: a year, separators, a letter, one or two figures;
- the first place of a text where a form stands, and the rank of the forms;
- the date that is shown wherever four figures stand together, made of figures of the text;
- what is recovered from a text, for every text.

Does not own: the numbers that figures spell, or how a date came into the text.
-/

namespace Daybook.Path

/-! ### The forms of a date -/

/-- Four figures in a row. -/
structure IsYear (year : Text) : Prop where
  four : year.length = 4
  figures : year.all Text.isFigure = true

/-- The figures at the head of a text, as many as there are but no more than two. -/
structure IsFew (few rest : Text) : Prop where
  figures : few.all Text.isFigure = true
  atMost : few.length ≤ 2
  longest : few.length = 2 ∨ StopsFigures rest

/-- A separator at the head of a text, which is taken if there is one. -/
def IsTaken (joint : Joint) (rest : Text) : Prop :=
  joint = .nothing → ∀ c ∈ rest.head?, ¬ (c = '/' ∨ c = '-')

/-- Figures that may be missing. -/
def ifGiven (few : Text) : Option Text :=
  if few = [] then none else some few

/-- The forms of a date, from the highest rank down. -/
inductive Form where
  | week
  | quarter
  | date
  deriving DecidableEq, Repr

/-- What a form reads at the head of a text. -/
inductive Reads : Form → Text → DateFigures → Prop where
  | week
      {year week rest : Text}
      (joint : Joint)
      (isYear : IsYear year)
      (given : week ≠ [])
      (isWeek : IsFew week rest) :
      Reads .week (year ++ (joint.text ++ 'W' :: (week ++ rest)))
        ⟨year, none, none, some week, none⟩
  | quarter
      {year : Text}
      {figure : Char}
      (joint : Joint)
      (isYear : IsYear year)
      (isFigure : Text.isFigure figure = true)
      (rest : Text) :
      Reads .quarter (year ++ (joint.text ++ 'Q' :: figure :: rest))
        ⟨year, none, none, none, some [figure]⟩
  | date
      {year month day rest : Text}
      {first second : Joint}
      (isYear : IsYear year)
      (isFirst : IsTaken first (month ++ (second.text ++ (day ++ rest))))
      (isMonth : IsFew month (second.text ++ (day ++ rest)))
      (isSecond : IsTaken second (day ++ rest))
      (isDay : IsFew day rest) :
      Reads .date (year ++ (first.text ++ (month ++ (second.text ++ (day ++ rest)))))
        ⟨year, ifGiven month, ifGiven day, none, none⟩

/-- What a form reads at its first place in a text.  A place is known by the rest of the text from
there on, and the first one by the longest rest. -/
def ReadsFirst (form : Form) (text : Text) (figures : DateFigures) : Prop :=
  ∃ rest, rest <:+ text ∧ Reads form rest figures ∧
    ∀ other found, other <:+ text → Reads form other found → other.length ≤ rest.length

/-- A form that stands nowhere in a text. -/
def Lacks (form : Form) (text : Text) : Prop :=
  ∀ rest figures, rest <:+ text → ¬ Reads form rest figures

/-- The figures of the date that a text shows.  A form of higher rank comes first, wherever in the
text it stands. -/
inductive Shows (text : Text) (figures : DateFigures) : Prop where
  | week (found : ReadsFirst .week text figures)
  | quarter (noWeek : Lacks .week text) (found : ReadsFirst .quarter text figures)
  | date
      (noWeek : Lacks .week text)
      (noQuarter : Lacks .quarter text)
      (found : ReadsFirst .date text figures)

/-! ### Taking a text apart -/

theorem exists_isTaken (text : Text) :
    ∃ joint : Joint, text = joint.text ++ skipJoint text ∧ IsTaken joint (skipJoint text) := by
  cases text with
  | nil => exact ⟨.nothing, rfl, by simp [IsTaken, skipJoint]⟩
  | cons c rest =>
    by_cases slash : c = '/'
    · subst slash
      exact ⟨.slash, rfl, nofun⟩
    · by_cases dash : c = '-'
      · subst dash
        exact ⟨.dash, rfl, nofun⟩
      · exact ⟨.nothing, by simp [skipJoint, Joint.text, slash, dash],
          by simp [IsTaken, skipJoint, slash, dash]⟩

theorem skipJoint_of_isTaken
    {joint : Joint}
    {rest : Text}
    (isTaken : IsTaken joint rest) :
    skipJoint (joint.text ++ rest) = rest := by
  cases joint with
  | nothing =>
    cases rest with
    | nil => rfl
    | cons c rest => exact if_neg (isTaken rfl c rfl)
  | slash => rfl
  | dash => rfl

/-- A letter of a form is no separator. -/
theorem skipJoint_letter
    {letter : Char}
    (apart : ¬ (letter = '/' ∨ letter = '-'))
    (joint : Joint)
    (rest : Text) :
    skipJoint (joint.text ++ letter :: rest) = letter :: rest := by
  apply skipJoint_of_isTaken
  simpa [IsTaken] using fun _ => not_or.1 apart

theorem exists_isFew (text : Text) :
    ∃ few rest, text = few ++ rest ∧ IsFew few rest := by
  cases text with
  | nil => exact ⟨[], [], rfl, rfl, by simp, .inr (by simp [StopsFigures])⟩
  | cons a rest =>
    by_cases first : Text.isFigure a = true
    · cases rest with
      | nil => exact ⟨[a], [], rfl, by simp [first], by simp, .inr (by simp [StopsFigures])⟩
      | cons b rest =>
        by_cases second : Text.isFigure b = true
        · exact ⟨[a, b], rest, rfl, by simp [first, second], by simp, .inl rfl⟩
        · exact ⟨[a], b :: rest, rfl, by simp [first], by simp,
            .inr (by simpa [StopsFigures] using second)⟩
    · exact ⟨[], a :: rest, rfl, rfl, by simp, .inr (by simpa [StopsFigures] using first)⟩

theorem fewFigures?_of_isFew
    {few rest : Text}
    (isFew : IsFew few rest) :
    fewFigures? (few ++ rest) = (ifGiven few).map fun few => (few, rest) := by
  obtain ⟨figures, atMost, longest⟩ := isFew
  by_cases given : few = []
  · subst given
    have stops : StopsFigures rest := longest.resolve_left (by simp)
    rw [ifGiven, if_pos rfl, List.nil_append]
    match rest with
    | [] => rfl
    | [a] => simp [fewFigures?, stops a rfl]
    | a :: b :: rest => simp [fewFigures?, stops a rfl]
  · have positive : 0 < few.length := List.length_pos_iff.2 given
    rw [ifGiven, if_neg given]
    apply fewFigures?_append _ figures
    rcases longest with two | stops
    · exact .inl two
    · have short : few.length = 2 ∨ few.length = 1 := by omega
      exact short.imp_right fun one => ⟨one, stops⟩

theorem isFew_of_fewFigures?
    {text few rest : Text}
    (found : fewFigures? text = some (few, rest)) :
    text = few ++ rest ∧ few ≠ [] ∧ IsFew few rest := by
  obtain ⟨taken, after, rfl, isFew⟩ := exists_isFew text
  rw [fewFigures?_of_isFew isFew, ifGiven] at found
  split at found
  · contradiction
  · rename_i given
    cases found
    exact ⟨rfl, given, isFew⟩

/-! ### The forms and what they read -/

def Form.at? : Form → Text → Option DateFigures
  | .week => weekAt?
  | .quarter => quarterAt?
  | .date => dateAt?

theorem at?_of_reads
    {form : Form}
    {text : Text}
    {figures : DateFigures}
    (reads : Reads form text figures) :
    form.at? text = some figures := by
  cases reads with
  | week joint isYear given isWeek =>
    have skipped := skipJoint_letter (show ¬ ('W' = '/' ∨ 'W' = '-') by decide) joint
    have weekFound := fewFigures?_of_isFew isWeek
    simp only [Form.at?, weekAt?, fourFigures?_append isYear.four isYear.figures, skipped,
      weekFound, ifGiven, if_neg given, Option.map_some]
  | quarter joint isYear isFigure rest =>
    have skipped := skipJoint_letter (show ¬ ('Q' = '/' ∨ 'Q' = '-') by decide) joint
    simp only [Form.at?, quarterAt?, fourFigures?_append isYear.four isYear.figures, skipped,
      if_pos isFigure]
  | date isYear isFirst isMonth isSecond isDay =>
    have monthFound := fewFigures?_of_isFew isMonth
    have dayFound := fewFigures?_of_isFew isDay
    rename_i year month day rest first second
    simp only [Form.at?, dateAt?, fourFigures?_append isYear.four isYear.figures,
      skipJoint_of_isTaken isFirst, monthFound, Option.map_map]
    -- Without a month, the search for the day goes on behind the first separator.
    by_cases given : month = []
    · simp only [ifGiven, given, ↓reduceIte, Option.map_none, List.nil_append,
        skipJoint_of_isTaken isSecond, dayFound, Option.map_map]
      simp [Function.comp_def]
    · simp only [ifGiven, given, ↓reduceIte, Option.map_some, skipJoint_of_isTaken isSecond,
        dayFound, Option.map_map]
      simp [Function.comp_def]

/-- A form with a letter is found behind a year and a separator, by what it reads behind them. -/
theorem exists_letter
    {letter : Char}
    {text : Text}
    {figures : DateFigures}
    (read : Text → Text → Option DateFigures)
    (found : ((fourFigures? text).bind fun opening =>
      (behind? letter (skipJoint opening.2)).bind fun rest => read opening.1 rest) = some figures) :
    ∃ year rest, ∃ joint : Joint,
      text = year ++ (joint.text ++ letter :: rest) ∧ IsYear year ∧ read year rest = some figures := by
  obtain ⟨⟨year, afterYear⟩, opens, behindYear⟩ := Option.bind_eq_some_iff.1 found
  obtain ⟨rest, marked, behindLetter⟩ := Option.bind_eq_some_iff.1 behindYear
  obtain ⟨whole, four, isFigures⟩ := eq_append_of_fourFigures? opens
  obtain ⟨joint, apart, -⟩ := exists_isTaken afterYear
  rw [apart, eq_cons_of_behind? marked] at whole
  exact ⟨year, rest, joint, whole, ⟨four, isFigures⟩, behindLetter⟩

theorem reads_of_at?
    {form : Form}
    {text : Text}
    {figures : DateFigures}
    (found : form.at? text = some figures) :
    Reads form text figures := by
  cases form with
  | week =>
    rw [Form.at?, weekAt?_eq] at found
    obtain ⟨year, rest, joint, rfl, isYear, found⟩ := exists_letter
      (fun year rest => (fewFigures? rest).map fun week => ⟨year, none, none, some week.1, none⟩)
      found
    obtain ⟨⟨week, afterWeek⟩, weekFound, rfl⟩ := Option.map_eq_some_iff.1 found
    obtain ⟨rfl, given, isWeek⟩ := isFew_of_fewFigures? weekFound
    exact .week joint isYear given isWeek
  | quarter =>
    rw [Form.at?, quarterAt?_eq] at found
    obtain ⟨year, rest, joint, rfl, isYear, found⟩ := exists_letter
      (fun year rest => (oneFigure? rest).map fun figure =>
        ⟨year, none, none, none, some [figure]⟩)
      found
    obtain ⟨figure, figureFound, rfl⟩ := Option.map_eq_some_iff.1 found
    obtain ⟨afterFigure, rfl, isFigure⟩ := exists_cons_of_oneFigure? figureFound
    exact .quarter joint isYear isFigure afterFigure
  | date =>
    have opens : (fourFigures? text).isSome := by
      rw [Form.at?, dateAt?] at found
      cases four : fourFigures? text <;> simp [four] at found ⊢
    obtain ⟨⟨year, afterYear⟩, opens⟩ := Option.isSome_iff_exists.1 opens
    obtain ⟨rfl, four, isFigures⟩ := eq_append_of_fourFigures? opens
    -- The rest is taken apart step by step, and what is then read can only be what was found.
    obtain ⟨first, apart, isFirst⟩ := exists_isTaken afterYear
    obtain ⟨month, afterMonth, monthApart, isMonth⟩ := exists_isFew (skipJoint afterYear)
    obtain ⟨second, apartAgain, isSecond⟩ := exists_isTaken afterMonth
    obtain ⟨day, afterDay, dayApart, isDay⟩ := exists_isFew (skipJoint afterMonth)
    rw [dayApart] at apartAgain isSecond
    rw [apartAgain] at monthApart isMonth
    rw [monthApart] at apart isFirst
    have reads := Reads.date ⟨four, isFigures⟩ isFirst isMonth isSecond isDay
    rw [← apart] at reads
    cases found.symm.trans (at?_of_reads reads)
    exact reads

theorem at?_eq_some_iff
    {form : Form}
    {text : Text}
    {figures : DateFigures} :
    form.at? text = some figures ↔ Reads form text figures :=
  ⟨reads_of_at?, at?_of_reads⟩

/-! ### The first place of a form -/

theorem leftmost?_eq_none_iff
    {form : Form}
    {text : Text} :
    leftmost? form.at? text = none ↔ Lacks form text := by
  have lacksHere (rest : Text) :
      form.at? rest = none ↔ ∀ figures, ¬ Reads form rest figures := by
    simp only [Option.eq_none_iff_forall_ne_some, ne_eq, at?_eq_some_iff]
  induction text with
  | nil =>
    simp only [leftmost?, Lacks, List.suffix_nil, lacksHere]
    exact ⟨fun lacks rest figures empty => empty ▸ lacks figures, fun lacks figures =>
      lacks [] figures rfl⟩
  | cons c rest inductionHypothesis =>
    rw [leftmost?]
    cases here : form.at? (c :: rest) with
    | some found =>
      refine iff_of_false (Option.some_ne_none found) fun lacks => ?_
      exact lacks _ found (List.suffix_refl _) (reads_of_at? here)
    | none =>
      rw [lacksHere] at here
      simp only [inductionHypothesis, Lacks, List.suffix_cons_iff]
      refine ⟨fun lacks place figures behind => ?_, fun lacks place figures behind =>
        lacks place figures (.inr behind)⟩
      rcases behind with rfl | later
      · exact here figures
      · exact lacks place figures later

theorem leftmost?_eq_some_iff
    {form : Form}
    {text : Text}
    {figures : DateFigures} :
    leftmost? form.at? text = some figures ↔ ReadsFirst form text figures := by
  induction text with
  | nil =>
    simp only [leftmost?, at?_eq_some_iff]
    refine ⟨fun here => ⟨[], List.suffix_refl _, here, fun other _ behind _ => behind.length_le⟩, ?_⟩
    rintro ⟨place, behind, reads, -⟩
    rwa [List.suffix_nil.1 behind] at reads
  | cons c rest inductionHypothesis =>
    rw [leftmost?]
    cases here : form.at? (c :: rest) with
    | some found =>
      have readsHere := reads_of_at? here
      constructor
      · rintro ⟨⟩
        exact ⟨_, List.suffix_refl _, readsHere, fun other _ behind _ => behind.length_le⟩
      · rintro ⟨place, behind, reads, first⟩
        have whole := behind.eq_of_length_le (first _ found (List.suffix_refl _) readsHere)
        rw [whole] at reads
        exact here.symm.trans (at?_of_reads reads)
    | none =>
      have notHere {other : DateFigures} : ¬ Reads form (c :: rest) other := by
        simp [← at?_eq_some_iff, here]
      simp only [inductionHypothesis]
      constructor
      · rintro ⟨place, behind, reads, first⟩
        refine ⟨place, List.suffix_cons_iff.2 (.inr behind), reads, fun other found inside => ?_⟩
        rcases List.suffix_cons_iff.1 inside with rfl | later
        · exact fun readsHere => absurd readsHere notHere
        · exact first other found later
      · rintro ⟨place, behind, reads, first⟩
        rcases List.suffix_cons_iff.1 behind with rfl | later
        · exact absurd reads notHere
        · exact ⟨place, later, reads, fun other found inside =>
            first other found (List.suffix_cons_iff.2 (.inr inside))⟩

/-! ### The date that is shown -/

theorem shown?_eq_or (text : Text) :
    shown? text =
      (leftmost? Form.week.at? text).or
        ((leftmost? Form.quarter.at? text).or (leftmost? Form.date.at? text)) := by
  simp only [shown?, dateForms, List.findSome?_cons, List.findSome?_nil, Form.at?]
  cases leftmost? weekAt? text <;> cases leftmost? quarterAt? text <;>
    cases leftmost? dateAt? text <;> rfl

/-- The search finds the date that a text shows, and nothing in any other text. -/
theorem shown?_eq_some_iff
    {text : Text}
    {figures : DateFigures} :
    shown? text = some figures ↔ Shows text figures := by
  simp only [shown?_eq_or, Option.or_eq_some_iff, leftmost?_eq_some_iff, leftmost?_eq_none_iff]
  constructor
  · rintro (found | ⟨noWeek, found | ⟨noQuarter, found⟩⟩)
    · exact .week found
    · exact .quarter noWeek found
    · exact .date noWeek noQuarter found
  · rintro (found | ⟨noWeek, found⟩ | ⟨noWeek, noQuarter, found⟩)
    · exact .inl found
    · exact .inr ⟨noWeek, .inl found⟩
    · exact .inr ⟨noWeek, .inr ⟨noQuarter, found⟩⟩

theorem ifGiven_eq_some_iff
    {few run : Text} :
    ifGiven few = some run ↔ few ≠ [] ∧ run = few := by
  unfold ifGiven
  split <;> simp [*, eq_comm]

/-- What a form reads are figures of the text. -/
theorem standIn_of_reads
    {form : Form}
    {text : Text}
    {figures : DateFigures}
    (reads : Reads form text figures) :
    figures.StandIn text := by
  cases reads with
  | week joint isYear given isWeek =>
    rename_i year week rest
    refine ⟨isYear.four, fun run member => ?_⟩
    simp only [DateFigures.mem_runs_iff, reduceCtorEq, Option.some.injEq, false_or,
      or_false] at member
    rcases member with rfl | rfl
    · exact ⟨(List.prefix_append _ _).isInfix, isYear.figures⟩
    · exact ⟨⟨year ++ (joint.text ++ ['W']), rest, by simp⟩, isWeek.figures⟩
  | quarter joint isYear isFigure rest =>
    rename_i year figure
    refine ⟨isYear.four, fun run member => ?_⟩
    simp only [DateFigures.mem_runs_iff, reduceCtorEq, Option.some.injEq, false_or] at member
    rcases member with rfl | rfl
    · exact ⟨(List.prefix_append _ _).isInfix, isYear.figures⟩
    · exact ⟨⟨year ++ (joint.text ++ ['Q']), rest, by simp⟩, by simp [isFigure]⟩
  | date isYear isFirst isMonth isSecond isDay =>
    rename_i year month day rest first second
    refine ⟨isYear.four, fun run member => ?_⟩
    simp only [DateFigures.mem_runs_iff, reduceCtorEq, or_false, ifGiven_eq_some_iff] at member
    rcases member with rfl | ⟨-, rfl⟩ | ⟨-, rfl⟩
    · exact ⟨(List.prefix_append _ _).isInfix, isYear.figures⟩
    · exact ⟨⟨year ++ first.text, second.text ++ (day ++ rest), by simp⟩, isMonth.figures⟩
    · exact ⟨⟨year ++ (first.text ++ (month ++ second.text)), rest, by simp⟩, isDay.figures⟩

theorem Shows.exists_reads
    {text : Text}
    {figures : DateFigures}
    (shows : Shows text figures) :
    ∃ form rest, rest <:+ text ∧ Reads form rest figures := by
  have readsAt {form : Form} (found : ReadsFirst form text figures) :
      ∃ form rest, rest <:+ text ∧ Reads form rest figures := by
    obtain ⟨rest, behind, reads, -⟩ := found
    exact ⟨form, rest, behind, reads⟩
  cases shows with
  | week found => exact readsAt found
  | quarter _ found => exact readsAt found
  | date _ _ found => exact readsAt found

/-- The date that a text shows is made of figures of that text. -/
theorem standIn_of_shown?
    {text : Text}
    {figures : DateFigures}
    (found : shown? text = some figures) :
    figures.StandIn text := by
  obtain ⟨form, rest, behind, reads⟩ := (shown?_eq_some_iff.1 found).exists_reads
  exact (standIn_of_reads reads).mono behind.isInfix

/-- A text with four figures in a row shows a date. -/
theorem exists_shown?
    {text run : Text}
    (isRun : IsRunIn text run)
    (four : run.length = 4) :
    ∃ figures, shown? text = some figures := by
  obtain ⟨⟨front, back, whole⟩, isFigures⟩ := isRun
  have here : (Form.date.at? (run ++ back)).isSome := by
    rw [Form.at?, dateAt?, fourFigures?_append four isFigures]
    rfl
  obtain ⟨figures, readsHere⟩ := Option.isSome_iff_exists.1 here
  apply Option.ne_none_iff_exists'.1
  intro notShown
  simp only [shown?_eq_or, Option.or_eq_none_iff, leftmost?_eq_none_iff] at notShown
  apply notShown.2.2 (run ++ back) figures
  · exact ⟨front, by rw [← List.append_assoc, whole]⟩
  · exact reads_of_at? readsHere

theorem shown?_eq_none_iff
    {text : Text} :
    shown? text = none ↔ ¬ ∃ year, IsYear year ∧ year <:+: text := by
  rw [Option.eq_none_iff_forall_ne_some, ← not_exists, not_iff_not]
  constructor
  · rintro ⟨figures, found⟩
    have stand := standIn_of_shown? found
    have isRun := stand.runs figures.year (by simp [DateFigures.mem_runs_iff])
    exact ⟨figures.year, ⟨stand.four, isRun.2⟩, isRun.1⟩
  · rintro ⟨year, isYear, inside⟩
    exact exists_shown? ⟨inside, isYear.figures⟩ isYear.four

/-! ### What is recovered -/

theorem recover?_eq (text : Text) :
    recover? text =
      match shown? text with
      | none => .ok none
      | some figures =>
        match figures.unvalued? with
        | some run => .error (.numeral run .malformed)
        | none => .ok (some figures.values) := by
  rw [recover?]
  cases shown? text with
  | none => rfl
  | some figures =>
    simp only [DateFigures.parts_eq]
    cases figures.unvalued? <;> rfl

/-- Nothing but figures without a value stands in the way of what a text shows. -/
theorem recover?_eq_error_iff
    {text : Text}
    {fault : Fault} :
    recover? text = .error fault ↔
      ∃ figures run, shown? text = some figures ∧ figures.unvalued? = some run ∧
        fault = .numeral run .malformed := by
  rw [recover?_eq]
  cases shown? text with
  | none => simp
  | some figures => cases unvalued : figures.unvalued? <;> simp [unvalued, eq_comm]

/-- A date is shown by its week, or by its quarter, or in its month by a day at most. -/
theorem values_of_shows
    {text : Text}
    {figures : DateFigures}
    (shows : Shows text figures) :
    [figures.values.day, figures.values.week, figures.values.quarter].countP Option.isSome ≤ 1 ∧
      (figures.values.week.isSome ∨ figures.values.quarter.isSome → figures.values.month = some 1) := by
  obtain ⟨form, rest, -, reads⟩ := shows.exists_reads
  cases reads with
  | week => simp [DateFigures.values]
  | quarter => simp [DateFigures.values]
  | date => simp [DateFigures.values, List.countP_cons]; split <;> simp

/-- What is recovered from any text.  A date is found exactly if four figures stand together; it is
the one that the text shows, its parts being the numbers that its figures spell, or a fault if
figures among them spell none.  Of day, week and quarter, a date has one at most, and with a week or
a quarter the month is the first. -/
theorem recover?_iff (text : Text) :
    (recover? text = .ok none ↔ ¬ ∃ year, IsYear year ∧ year <:+: text) ∧
      (∀ parts, recover? text = .ok (some parts) ↔
        ∃ figures, Shows text figures ∧ figures.HaveValues ∧ parts = figures.values) ∧
      (∀ fault, recover? text = .error fault ↔
        ∃ figures run, Shows text figures ∧ figures.unvalued? = some run ∧
          fault = .numeral run .malformed) ∧
      ∀ parts, recover? text = .ok (some parts) →
        [parts.day, parts.week, parts.quarter].countP Option.isSome ≤ 1 ∧
          (parts.week.isSome ∨ parts.quarter.isSome → parts.month = some 1) := by
  have found : ∀ parts, recover? text = .ok (some parts) ↔
      ∃ figures, Shows text figures ∧ figures.HaveValues ∧ parts = figures.values := by
    intro parts
    simp only [← shown?_eq_some_iff, DateFigures.haveValues_iff_unvalued?, recover?_eq]
    cases shown? text with
    | none => simp
    | some figures => cases unvalued : figures.unvalued? <;> simp [unvalued, eq_comm]
  refine ⟨?_, found, ?_, ?_⟩
  · rw [← shown?_eq_none_iff, recover?_eq]
    cases shown? text with
    | none => simp
    | some figures => cases unvalued : figures.unvalued? <;> simp [unvalued]
  · intro fault
    simp only [← shown?_eq_some_iff, recover?_eq_error_iff]
  · intro parts recovered
    obtain ⟨figures, shows, -, rfl⟩ := (found parts).1 recovered
    exact values_of_shows shows

/-- A week is shown although a day stands further left. -/
theorem recover?_dayBeforeWeek :
    let text := "1402-08-15 1404/W5".toList
    let parts : DateParts := ⟨1404, some 1, none, some 5, none⟩
    recover? text = .ok (some parts) ∧
      (∃ figures, Shows text figures ∧ figures.HaveValues ∧ parts = figures.values) ∧
      [parts.day, parts.week, parts.quarter].countP Option.isSome ≤ 1 ∧
      (parts.week.isSome ∨ parts.quarter.isSome → parts.month = some 1) := by
  intro text parts
  have recovered : recover? text = .ok (some parts) := by rfl
  obtain ⟨-, found, -, alone⟩ := recover?_iff text
  exact ⟨recovered, (found parts).1 recovered, alone parts recovered⟩

/-- Four digits of a younger script are known as figures, yet they are not the year of a date. -/
theorem recover?_youngerYear :
    (∃ year, IsYear year ∧ year <:+: "𑽑𑽔𑽐𑽓".toList) ∧
      recover? "𑽑𑽔𑽐𑽓".toList = .error (.numeral "𑽑𑽔𑽐𑽓".toList .malformed) :=
  ⟨⟨_, ⟨rfl, by decide⟩, List.infix_refl _⟩, by rfl⟩

end Daybook.Path
