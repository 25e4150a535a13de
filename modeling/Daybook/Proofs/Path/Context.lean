import Daybook.Proofs.Path.Joining
import Daybook.Proofs.Path.Shown

/-!
Contract: what stands around a date without figures has no influence on what is recovered.

Owns:
- texts without figures, and what is read at the head of a text that goes on with one;
- the forms of a date as what they read behind a year;
- the search for a form with such texts in front of it and behind it;
- the date recovered from such a text, and from a path with the extension of notes or without it.

Does not own: which date a text shows.
-/

namespace Daybook.Path

def NoFigures (text : Text) : Prop :=
  ∀ c ∈ text, Text.isFigure c = false

instance (text : Text) : Decidable (NoFigures text) :=
  inferInstanceAs (Decidable (∀ c ∈ text, Text.isFigure c = false))

theorem NoFigures.of_cons
    {c : Char}
    {rest : Text}
    (none : NoFigures (c :: rest)) :
    Text.isFigure c = false ∧ NoFigures rest :=
  List.forall_mem_cons.1 none

theorem noFigures_extension : NoFigures extension := by
  decide

/-! ### The head of a text that goes on without figures -/

theorem fourFigures?_eq_none_of_mem
    {text : Text}
    {c : Char}
    (early : c ∈ text.take 4)
    (noFigure : Text.isFigure c = false) :
    fourFigures? text = none := by
  cases opens : fourFigures? text with
  | none => rfl
  | some found =>
    obtain ⟨whole, four, figures⟩ := eq_append_of_fourFigures? opens
    rw [whole, List.take_left' four] at early
    have figure := List.all_eq_true.1 figures c early
    rw [noFigure] at figure
    contradiction

section Head

variable {after : Text} (noneAfter : NoFigures after)

include noneAfter

theorem fewFigures?_of_noFigures : fewFigures? after = none := by
  match after with
  | [] => rfl
  | [a] => simp [fewFigures?, noneAfter.of_cons.1]
  | a :: b :: rest => simp [fewFigures?, noneAfter.of_cons.1]

theorem oneFigure?_of_noFigures : oneFigure? after = none := by
  cases after with
  | nil => rfl
  | cons c rest => simp [oneFigure?, noneAfter.of_cons.1]

theorem noFigures_skipJoint : NoFigures (skipJoint after) := by
  intro c member
  exact noneAfter c ((suffix_skipJoint after).subset member)

/-- A year is not finished by a text without figures. -/
theorem fourFigures?_append_noFigures (text : Text) :
    fourFigures? (text ++ after) =
      (fourFigures? text).map fun found => (found.1, found.2 ++ after) := by
  match text with
  | a :: b :: c :: d :: rest =>
    simp only [List.cons_append, fourFigures?]
    split <;> rfl
  | [] | [_] | [_, _] | [_, _, _] =>
    cases after with
    | nil => rfl
    | cons next rest => exact fourFigures?_eq_none_of_mem (by simp) noneAfter.of_cons.1

theorem fewFigures?_append_noFigures (text : Text) :
    fewFigures? (text ++ after) =
      (fewFigures? text).map fun found => (found.1, found.2 ++ after) := by
  match text with
  | [] => exact fewFigures?_of_noFigures noneAfter
  | [a] =>
    cases after with
    | nil => simp
    | cons next rest =>
      simp only [List.cons_append, List.nil_append, fewFigures?, noneAfter.of_cons.1]
      split <;> rfl
  | a :: b :: rest =>
    simp only [List.cons_append, fewFigures?]
    split
    · split <;> rfl
    · rfl

theorem oneFigure?_append_noFigures (text : Text) :
    oneFigure? (text ++ after) = oneFigure? text := by
  cases text with
  | nil => exact oneFigure?_of_noFigures noneAfter
  | cons c rest => rfl

/-- Behind a separator, a text still goes on without figures; of an empty one the separator itself
may be the beginning of what follows. -/
theorem exists_skipJoint_append (text : Text) :
    ∃ rest, NoFigures rest ∧ skipJoint (text ++ after) = skipJoint text ++ rest := by
  cases text with
  | nil => exact ⟨skipJoint after, noFigures_skipJoint noneAfter, rfl⟩
  | cons c rest =>
    refine ⟨after, noneAfter, ?_⟩
    simp only [List.cons_append, skipJoint]
    split <;> rfl

/-- Behind a letter, a reading that needs figures finds what it finds without the text that follows
them. -/
theorem behind?_append_bind
    {α : Type}
    {read : Text → Option α}
    (needs : read [] = none)
    (stops : ∀ text rest, NoFigures rest → read (text ++ rest) = read text)
    (letter : Char)
    (text : Text) :
    (behind? letter (text ++ after)).bind read = (behind? letter text).bind read := by
  cases text with
  | nil =>
    show (behind? letter after).bind read = none
    cases marked : behind? letter after with
    | none => rfl
    | some rest =>
      rw [eq_cons_of_behind? marked] at noneAfter
      exact (stops [] rest noneAfter.of_cons.2).trans needs
  | cons c rest =>
    simp only [List.cons_append, behind?]
    split
    · exact stops rest after noneAfter
    · rfl

end Head

/-! ### Forms behind a year -/

/-- What a form reads behind the year that it begins with. -/
def Form.behindYear (year : Text) (text : Text) : Form → Option DateFigures
  | .week =>
    (behind? 'W' (skipJoint text)).bind fun rest =>
      (fewFigures? rest).map fun week => ⟨year, none, none, some week.1, none⟩
  | .quarter =>
    (behind? 'Q' (skipJoint text)).bind fun rest =>
      (oneFigure? rest).map fun figure => ⟨year, none, none, none, some [figure]⟩
  | .date =>
    let month := fewFigures? (skipJoint text)
    let afterMonth :=
      match month with
      | some (_, rest) => rest
      | none => skipJoint text
    let day := fewFigures? (skipJoint afterMonth)
    some ⟨year, month.map Prod.fst, day.map Prod.fst, none, none⟩

theorem at?_eq_bind
    (form : Form)
    (text : Text) :
    form.at? text = (fourFigures? text).bind fun found => form.behindYear found.1 found.2 := by
  cases form with
  | week => exact weekAt?_eq text
  | quarter => exact quarterAt?_eq text
  | date =>
    rw [Form.at?, dateAt?]
    cases fourFigures? text <;> rfl

/-- No form begins with anything but a figure. -/
theorem at?_eq_none
    {c : Char}
    (noFigure : Text.isFigure c = false)
    (form : Form)
    (rest : Text) :
    form.at? (c :: rest) = none := by
  rw [at?_eq_bind, fourFigures?_eq_none noFigure]
  rfl

theorem behindYear_append
    {after : Text}
    (noneAfter : NoFigures after)
    (form : Form)
    (year text : Text) :
    form.behindYear year (text ++ after) = form.behindYear year text := by
  obtain ⟨rest, noneRest, skipped⟩ := exists_skipJoint_append noneAfter text
  cases form with
  | week =>
    rw [Form.behindYear, skipped]
    apply behind?_append_bind noneRest rfl
    intro text rest none
    simp [fewFigures?_append_noFigures none, Function.comp_def]
  | quarter =>
    rw [Form.behindYear, skipped]
    apply behind?_append_bind noneRest rfl
    intro text rest none
    rw [oneFigure?_append_noFigures none]
  | date =>
    simp only [Form.behindYear, skipped, fewFigures?_append_noFigures noneRest, Option.map_map]
    cases fewFigures? (skipJoint text) with
    | none =>
      obtain ⟨later, noneLater, skippedAgain⟩ := exists_skipJoint_append noneRest (skipJoint text)
      simp [skippedAgain, fewFigures?_append_noFigures noneLater, Function.comp_def]
    | some month =>
      obtain ⟨later, noneLater, skippedAgain⟩ := exists_skipJoint_append noneRest month.2
      simp [skippedAgain, fewFigures?_append_noFigures noneLater, Function.comp_def]

theorem at?_append
    {after : Text}
    (noneAfter : NoFigures after)
    (form : Form)
    (text : Text) :
    form.at? (text ++ after) = form.at? text := by
  rw [at?_eq_bind, at?_eq_bind, fourFigures?_append_noFigures noneAfter, Option.bind_map]
  apply congrArg
  funext found
  exact behindYear_append noneAfter form found.1 found.2

/-! ### The search for a form -/

theorem leftmost?_append_of_noFigures
    {before : Text}
    (noneBefore : NoFigures before)
    (form : Form)
    (text : Text) :
    leftmost? form.at? (before ++ text) = leftmost? form.at? text := by
  apply leftmost?_append_of_noFigure _ noneBefore
  intro c rest noFigure
  exact at?_eq_none noFigure form rest

theorem leftmost?_append_noFigures
    {after : Text}
    (noneAfter : NoFigures after)
    (form : Form)
    (text : Text) :
    leftmost? form.at? (text ++ after) = leftmost? form.at? text := by
  induction text with
  | nil =>
    have passed := leftmost?_append_of_noFigures noneAfter form []
    rwa [List.append_nil] at passed
  | cons c rest inductionHypothesis =>
    have here := at?_append noneAfter form (c :: rest)
    rw [List.cons_append] at here
    rw [List.cons_append, leftmost?, leftmost?, here, inductionHypothesis]

/-! ### What is recovered -/

section Amid

variable
  {before after : Text}
  (noneBefore : NoFigures before)
  (noneAfter : NoFigures after)

include noneBefore noneAfter

theorem recover?_amid (text : Text) : recover? (before ++ (text ++ after)) = recover? text := by
  have sameShown : shown? (before ++ (text ++ after)) = shown? text := by
    simp only [shown?_eq_or, leftmost?_append_of_noFigures noneBefore,
      leftmost?_append_noFigures noneAfter]
  rw [recover?, recover?, sameShown]

end Amid

theorem recover?_withoutExtension (text : Text) :
    recover? (withoutExtension text) = recover? text := by
  by_cases ends : extension <:+ text
  · obtain ⟨stem, rfl⟩ := ends
    have nothing : NoFigures [] := by decide
    rw [withoutExtension_append]
    exact (recover?_amid nothing noFigures_extension stem).symm
  · rw [withoutExtension_of_not_suffix ends]

/-- In its base folder, a file shows what its path from there shows, with an extension or without
one. -/
theorem dateOf?_inFolder (base path : Text) :
    dateOf? base (inFolder (cleanBase base) path) = recover? path ∧
      dateOf? base (withExtension (inFolder (cleanBase base) path)) = recover? path := by
  constructor
  · rw [dateOf?, insideBase?, outOfFolder?_inFolder, Option.map_some]
    exact recover?_withoutExtension path
  · rw [dateOf?, insideBase?, withExtension_inFolder, outOfFolder?_inFolder, Option.map_some,
      withoutExtension_withExtension]
    exact recover?_withoutExtension path

/-- What stands before and after a text without figures of its own is passed over when a date is
recovered, be it folders, a title or the extension. -/
theorem recover?_surrounded
    {before after : Text}
    (noneBefore : NoFigures before)
    (noneAfter : NoFigures after)
    (text : Text) :
    recover? (before ++ (text ++ after)) = recover? text ∧
      ∀ base,
        let file := inFolder (cleanBase base) (before ++ (text ++ after))
        dateOf? base file = recover? text ∧ dateOf? base (withExtension file) = recover? text := by
  have passed := recover?_amid noneBefore noneAfter text
  refine ⟨passed, ?_⟩
  intro base
  have inside := dateOf?_inFolder base (before ++ (text ++ after))
  rwa [passed] at inside

/-- Separators and letters of the forms right beside a year are neither a week nor a quarter of
it. -/
theorem recover?_yearAmidLetters :
    let before := "Quiet/Weeks-".toList
    let after := "/W-Q, a walk".toList
    let parts : DateParts := ⟨1403, some 1, none, none, none⟩
    NoFigures before ∧ NoFigures after ∧
      recover? (before ++ ("1403".toList ++ after)) = .ok (some parts) ∧
      dateOf? "notes".toList "notes/Quiet/Weeks-1403/W-Q, a walk".toList = .ok (some parts) ∧
      dateOf? "notes".toList "notes/Quiet/Weeks-1403/W-Q, a walk.md".toList = .ok (some parts) := by
  intro before after parts
  have noneBefore : NoFigures before := by decide
  have noneAfter : NoFigures after := by decide
  obtain ⟨recovered, inFiles⟩ := recover?_surrounded noneBefore noneAfter "1403".toList
  have file := inFiles "notes".toList
  exact ⟨noneBefore, noneAfter, recovered, file.1, file.2⟩

end Daybook.Path
