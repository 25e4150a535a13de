import Daybook.Path.Recovery
import Daybook.Proofs.Path.Joining

/-!
Contract: which base folders are one and the same.

Owns:
- texts that do not begin or end with a character of a class, and what stripping leaves of them;
- the folders in which notes have the same paths and paths show the same dates;
- when a base folder is the same as its normal form.

Does not own: what a path shows inside its base folder.
-/

namespace Daybook

namespace Text

/-- Whether a text neither begins nor ends with a character of a class. -/
structure IsStripped (inClass : Char → Bool) (text : Text) : Prop where
  opens : ∀ c ∈ text.head?, inClass c = false
  ends : ∀ c ∈ text.getLast?, inClass c = false

section Stripping

variable {inClass : Char → Bool} {text : Text}

theorem dropWhile_eq_self
    (opens : ∀ c ∈ text.head?, inClass c = false) :
    text.dropWhile inClass = text := by
  cases text with
  | nil => rfl
  | cons c rest =>
    have outside : inClass c = false := opens c rfl
    rw [List.dropWhile_cons, outside, if_neg Bool.false_ne_true]

theorem stripEnd_eq_self
    (ends : ∀ c ∈ text.getLast?, inClass c = false) :
    stripEnd inClass text = text := by
  have opensReversed : ∀ c ∈ text.reverse.head?, inClass c = false := by
    rw [List.head?_reverse]
    exact ends
  rw [stripEnd, dropWhile_eq_self opensReversed, List.reverse_reverse]

theorem prefix_stripEnd (inClass : Char → Bool) (text : Text) :
    stripEnd inClass text <+: text := by
  have ends := List.dropWhile_suffix inClass (l := text.reverse)
  rwa [← List.reverse_prefix, List.reverse_reverse] at ends

theorem infix_strip (inClass : Char → Bool) (text : Text) : strip inClass text <:+: text :=
  (prefix_stripEnd inClass _).isInfix.trans (List.dropWhile_suffix inClass).isInfix

/-- Stripping leaves a text whose ends are outside the class. -/
theorem isStripped_strip (inClass : Char → Bool) (text : Text) :
    IsStripped inClass (strip inClass text) where
  opens := fun _ head => inClass_of_head?_strip inClass head
  ends := by
    intro c last
    have stops := List.head?_dropWhile_not inClass (text.dropWhile inClass).reverse
    rw [strip, stripEnd, List.getLast?_reverse] at last
    rw [last] at stops
    simpa using stops

/-- Stripping changes nothing exactly where the ends are outside the class. -/
theorem strip_eq_self_iff : strip inClass text = text ↔ IsStripped inClass text := by
  constructor
  · intro unchanged
    rw [← unchanged]
    exact isStripped_strip inClass text
  · intro stripped
    rw [strip, dropWhile_eq_self stripped.opens, stripEnd_eq_self stripped.ends]

/-- At the beginning of a stripped text stands what stood there before, unless that was of the
class. -/
theorem head?_strip
    (opens : ∀ c ∈ text.head?, inClass c = false)
    {c : Char}
    (head : (strip inClass text).head? = some c) :
    text.head? = some c := by
  rw [strip, dropWhile_eq_self opens] at head
  obtain ⟨rest, whole⟩ := prefix_stripEnd inClass text
  rw [← whole, List.head?_append, head]
  rfl

/-- At the end of a stripped text stands what stood there before, unless that was of the class. -/
theorem getLast?_strip
    (ends : ∀ c ∈ text.getLast?, inClass c = false)
    {c : Char}
    (last : (strip inClass text).getLast? = some c) :
    text.getLast? = some c := by
  obtain ⟨front, whole⟩ := List.dropWhile_suffix inClass (l := text)
  cases remaining : text.dropWhile inClass with
  | nil =>
    rw [strip, remaining] at last
    cases last
  | cons first rest =>
    have sameLast : text.getLast? = (text.dropWhile inClass).getLast? := by
      rw [← whole, List.getLast?_append_of_ne_nil _ (by simp [remaining]), whole]
    rw [sameLast] at ends ⊢
    rwa [strip, stripEnd_eq_self ends] at last

end Stripping

end Text

namespace Path

/-! ### One folder by two names -/

/-- Whether two base folders are the same to everything that works with a base folder. -/
structure Interchangeable (first second : Text) : Prop where
  notePath :
    ∀ (system : CalendarSystem) (calendar : Option Calendar) (pattern : Option Text)
      (parts : DateParts),
      notePath system calendar first pattern parts = notePath system calendar second pattern parts
  isNotePath :
    ∀ (system : CalendarSystem) (calendar : Option Calendar) (pattern : Option Text)
      (parts : DateParts) (file : Text),
      isNotePath system calendar first pattern parts file =
        isNotePath system calendar second pattern parts file
  insideBase? : ∀ file : Text, insideBase? first file = insideBase? second file
  dateOf? : ∀ file : Text, dateOf? first file = dateOf? second file

/-- A file lies in one folder only. -/
theorem inFolder_left_injective (path : Text) : Function.Injective (inFolder · path) := by
  intro first second same
  have longer : ∀ base : Text, base ++ '/' :: path ≠ path := by
    intro base equal
    have lengths := congrArg List.length equal
    simp only [List.length_append, List.length_cons] at lengths
    omega
  simp only [inFolder] at same
  by_cases outer : first = []
  · by_cases inner : second = []
    · rw [outer, inner]
    · rw [if_pos outer, if_neg inner] at same
      exact absurd same.symm (longer second)
  · by_cases inner : second = []
    · rw [if_neg outer, if_pos inner] at same
      exact absurd same (longer first)
    · rw [if_neg outer, if_neg inner] at same
      exact List.append_cancel_right same

/-- Base folders are the same exactly if they have one normal form. -/
theorem interchangeable_iff (first second : Text) :
    Interchangeable first second ↔ cleanBase first = cleanBase second := by
  constructor
  · intro same
    -- A calendar that only repeats its numbers writes a path for every base folder.
    have paths := same.notePath .solar (some .echo) none ⟨1, none, none, none, none⟩
    have answers := congrArg
      (Consultation.answer · ⟨⟨1, by decide, by decide⟩, .standard⟩) paths
    have files : assemble first _ = assemble second _ := Except.ok.inj answers
    rw [assemble_eq_inFolder, assemble_eq_inFolder] at files
    exact inFolder_left_injective _ files
  · intro same
    have assembled : assemble first = assemble second := by
      funext rendered
      rw [assemble, assemble, same]
    have written : ∀ system calendar pattern parts,
        notePath system calendar first pattern parts =
          notePath system calendar second pattern parts := by
      intro system calendar pattern parts
      rw [notePath, notePath, assembled]
    have inside : ∀ file, insideBase? first file = insideBase? second file := by
      intro file
      rw [insideBase?, insideBase?, same]
    exact {
      notePath := written
      isNotePath := fun system calendar pattern parts file => by
        rw [isNotePath, isNotePath, written]
      insideBase? := inside
      dateOf? := fun file => by rw [dateOf?, dateOf?, inside] }

/-! ### Normal forms -/

theorem isStripped_trim (base : Text) : Text.IsStripped Text.isBlank (Text.trim base) :=
  Text.isStripped_strip Text.isBlank base

theorem isStripped_cleanBase (base : Text) : Text.IsStripped isSeparator (cleanBase base) :=
  Text.isStripped_strip isSeparator (Text.trim base)

/-- A normal form is its own exactly if no blank stands at its ends. -/
theorem cleanBase_cleanBase_iff (base : Text) :
    cleanBase (cleanBase base) = cleanBase base ↔
      Text.IsStripped Text.isBlank (cleanBase base) := by
  constructor
  · intro same
    -- Neither of the two strippings can have made the normal form shorter.
    have shorter := (Text.infix_strip isSeparator (Text.trim (cleanBase base))).length_le
    have inside := Text.infix_strip Text.isBlank (cleanBase base)
    have lengths : (Text.trim (cleanBase base)).length = (cleanBase base).length :=
      Nat.le_antisymm inside.length_le ((congrArg List.length same).symm.le.trans shorter)
    exact Text.strip_eq_self_iff.1 (inside.eq_of_length lengths)
  · intro stripped
    have trimmed : Text.trim (cleanBase base) = cleanBase base := Text.strip_eq_self_iff.2 stripped
    rw [cleanBase, trimmed]
    exact Text.strip_eq_self_iff.2 (isStripped_cleanBase base)

theorem isSeparator_eq_false_of_ne
    {place : Option Char}
    (other : place ≠ some '/') :
    ∀ c ∈ place, isSeparator c = false := by
  rintro c rfl
  simpa [isSeparator] using other

/-- A normal form begins with a blank only where separators stood before it. -/
theorem head?_trim_of_isBlank
    {base : Text}
    {c : Char}
    (head : (cleanBase base).head? = some c)
    (blank : Text.isBlank c = true) :
    (Text.trim base).head? = some '/' := by
  by_contra other
  have first := Text.head?_strip (isSeparator_eq_false_of_ne other) head
  rw [(isStripped_trim base).opens c first] at blank
  cases blank

/-- A normal form ends in a blank only where separators stood after it. -/
theorem getLast?_trim_of_isBlank
    {base : Text}
    {c : Char}
    (last : (cleanBase base).getLast? = some c)
    (blank : Text.isBlank c = true) :
    (Text.trim base).getLast? = some '/' := by
  by_contra other
  have final := Text.getLast?_strip (isSeparator_eq_false_of_ne other) last
  rw [(isStripped_trim base).ends c final] at blank
  cases blank

/-- No separator stands at the ends of a normal form, and a blank only where separators stood
around it.  Where no blank does, a base folder is the same as its normal form, and only there. -/
theorem interchangeable_cleanBase_iff (base : Text) :
    Text.IsStripped isSeparator (cleanBase base) ∧
      (∀ c, (cleanBase base).head? = some c → Text.isBlank c = true →
        (Text.trim base).head? = some '/') ∧
      (∀ c, (cleanBase base).getLast? = some c → Text.isBlank c = true →
        (Text.trim base).getLast? = some '/') ∧
      (Interchangeable base (cleanBase base) ↔
        Text.IsStripped Text.isBlank (cleanBase base)) := by
  refine ⟨isStripped_cleanBase base, fun c => head?_trim_of_isBlank,
    fun c => getLast?_trim_of_isBlank, ?_⟩
  rw [interchangeable_iff, eq_comm]
  exact cleanBase_cleanBase_iff base

set_option maxRecDepth 4096 in
/-- A blank behind the leading separator stays in the normal form of a folder, and is lost in the
normal form of that. -/
theorem not_interchangeable_innerBlank :
    let base := "/ daily".toList
    let path := fun folder =>
      (notePath .solar none folder
          (some (Pattern.Layout.source
            [.symbol (.field .year), .plain ['-'], .symbol (.field .paddedMonth), .plain ['-'],
              .symbol (.field .paddedDay)]))
          ⟨1403, some 8, some 15, none, none⟩).answer
            ⟨⟨739195, by decide, by decide⟩, .standard⟩
    cleanBase base = " daily".toList ∧
      ¬ Text.IsStripped Text.isBlank (cleanBase base) ∧
      path base = .ok " daily/1403-08-15.md".toList ∧
      path (cleanBase base) = .ok "daily/1403-08-15.md".toList ∧
      ¬ Interchangeable base (cleanBase base) := by
  intro base path
  have differs : ¬ Interchangeable base (cleanBase base) := by
    rw [interchangeable_iff]
    decide
  have blank : ¬ Text.IsStripped Text.isBlank (cleanBase base) := by
    intro stripped
    exact absurd (stripped.opens ' ' (by decide)) (by decide)
  refine ⟨by decide, blank, ?_, ?_, differs⟩
  all_goals
    rw [notePath_source_eq_ok_iff (Calendar.standsFor_none .solar) (by decide) (by decide)]
    exact ⟨by decide, ⟨.solar, ⟨739195, by decide, by decide⟩⟩, "1403-08-15".toList, by rfl, by rfl,
      by decide⟩

end Path

end Daybook
