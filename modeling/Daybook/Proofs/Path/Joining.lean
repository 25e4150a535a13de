import Daybook.Proofs.Path.Rendering
import Mathlib.Data.List.Infix

/-!
Contract: building the path of a note and taking it apart are inverse.

Owns:
- the extension of a path inside a folder, which never reaches into the folder;
- the parts of a built path: base folder, rendered date, extension;
- what is left of a built path once base folder and extension are taken off.

Does not own: the rendered date, which may be any text at all.
-/

namespace Daybook

namespace Text

private theorem head?_stripEnd
    (inClass : Char → Bool)
    {text : Text}
    {c : Char}
    (head : (stripEnd inClass text).head? = some c) :
    text.head? = some c := by
  obtain ⟨rest, ends⟩ := List.dropWhile_suffix inClass (l := text.reverse)
  have opens : text = stripEnd inClass text ++ rest.reverse := by
    have reversed := congrArg List.reverse ends
    simpa [stripEnd] using reversed.symm
  rw [opens, List.head?_append, head]
  rfl

/-- A stripped text does not begin with a character of the class. -/
theorem inClass_of_head?_strip
    (inClass : Char → Bool)
    {text : Text}
    {c : Char}
    (head : (strip inClass text).head? = some c) :
    inClass c = false := by
  have first := head?_stripEnd inClass head
  have stops := List.head?_dropWhile_not inClass text
  rw [first] at stops
  simpa using stops

end Text

namespace Path

theorem head?_cleanBase (base : Text) : (cleanBase base).head? ≠ some '/' := by
  intro head
  have separates := Text.inClass_of_head?_strip isSeparator head
  exact absurd separates (by decide)

theorem head?_dropSeparators (text : Text) : (text.dropWhile isSeparator).head? ≠ some '/' := by
  intro head
  have stops := List.head?_dropWhile_not isSeparator text
  rw [head] at stops
  exact absurd stops (by decide)

/-! ### The end of a path inside a folder -/

/-- A text without a separator ends a path in a folder exactly if it ends the path itself. -/
theorem suffix_inFolder_iff
    (base path : Text)
    (ending : Text)
    (flat : '/' ∉ ending) :
    ending <:+ inFolder base path ↔ ending <:+ path := by
  unfold inFolder
  split
  · exact Iff.rfl
  · constructor
    · intro ends
      rcases List.suffix_or_suffix_of_suffix ends (List.suffix_append base ('/' :: path)) with
        short | long
      · rcases List.suffix_cons_iff.1 short with whole | inside
        · rw [whole] at flat
          exact absurd List.mem_cons_self flat
        · exact inside
      · exact absurd (long.subset List.mem_cons_self) flat
    · intro ends
      exact (ends.trans (List.suffix_cons '/' path)).trans (List.suffix_append base _)

theorem withExtension_inFolder
    (base path : Text) :
    withExtension (inFolder base path) = inFolder base (withExtension path) := by
  have sameEnd := suffix_inFolder_iff base path extension (by decide)
  simp only [withExtension, List.isSuffixOf_iff_suffix, sameEnd]
  split
  · rfl
  · unfold inFolder
    split
    · rfl
    · rw [List.append_assoc, List.cons_append]

/-- A built path is the base folder, if there is one, and the file in it. -/
theorem assemble_eq_inFolder
    (base rendered : Text) :
    assemble base rendered =
      inFolder (cleanBase base) (withExtension (rendered.dropWhile isSeparator)) := by
  unfold assemble
  exact withExtension_inFolder _ _

theorem withoutExtension_append (stem : Text) : withoutExtension (stem ++ extension) = stem := by
  have ends : extension.isSuffixOf (stem ++ extension) = true :=
    List.isSuffixOf_iff_suffix.2 (List.suffix_append stem extension)
  rw [withoutExtension, if_pos ends, List.length_append, Nat.add_sub_cancel, List.take_left]

theorem withoutExtension_of_not_suffix
    {path : Text}
    (bare : ¬ extension <:+ path) :
    withoutExtension path = path := by
  rw [withoutExtension, if_neg (mt List.isSuffixOf_iff_suffix.1 bare)]

theorem withExtension_of_suffix
    {path : Text}
    (ends : extension <:+ path) :
    withExtension path = path := by
  rw [withExtension, if_pos (List.isSuffixOf_iff_suffix.2 ends)]

theorem withExtension_of_not_suffix
    {path : Text}
    (bare : ¬ extension <:+ path) :
    withExtension path = path ++ extension := by
  rw [withExtension, if_neg (mt List.isSuffixOf_iff_suffix.1 bare)]

theorem suffix_withExtension (path : Text) : extension <:+ withExtension path := by
  by_cases ends : extension <:+ path
  · rwa [withExtension_of_suffix ends]
  · rw [withExtension_of_not_suffix ends]
    exact List.suffix_append path extension

theorem withoutExtension_withExtension
    (path : Text) :
    withoutExtension (withExtension path) = withoutExtension path := by
  by_cases ends : extension <:+ path
  · rw [withExtension_of_suffix ends]
  · rw [withExtension_of_not_suffix ends, withoutExtension_append,
      withoutExtension_of_not_suffix ends]

/-- A path is given a second extension only if it had both. -/
theorem suffix_of_twice_suffix_withExtension
    {path : Text}
    (twice : extension ++ extension <:+ withExtension path) :
    extension ++ extension <:+ path := by
  by_cases ends : extension <:+ path
  · rwa [withExtension_of_suffix ends] at twice
  · rw [withExtension_of_not_suffix ends] at twice
    obtain ⟨opening, equal⟩ := twice
    rw [← List.append_assoc] at equal
    exact absurd ⟨opening, List.append_cancel_right equal⟩ ends

/-- What a note's path shows inside its base folder is the rendered date without an extension. -/
theorem insideBase?_assemble
    (base rendered : Text) :
    insideBase? base (assemble base rendered) =
      some (withoutExtension (rendered.dropWhile isSeparator)) := by
  rw [insideBase?, assemble_eq_inFolder, outOfFolder?_inFolder, Option.map_some,
    withoutExtension_withExtension]

/-! ### What a path shows -/

theorem dropSeparators_append
    (front : Text)
    {core : Text}
    (given : core ≠ [])
    (opens : core.head? ≠ some '/') :
    (front ++ core).dropWhile isSeparator = front.dropWhile isSeparator ++ core := by
  obtain ⟨c, rest, rfl⟩ := List.exists_cons_of_ne_nil given
  have stops : ¬ isSeparator c = true := by
    intro separates
    rw [eq_of_beq separates] at opens
    exact opens rfl
  induction front with
  | nil => exact List.dropWhile_cons_of_neg stops
  | cons first front inductionHypothesis =>
    by_cases separates : isSeparator first = true
    · rw [List.cons_append, List.dropWhile_cons_of_pos separates, inductionHypothesis,
        List.dropWhile_cons_of_pos separates]
    · rw [List.cons_append, List.dropWhile_cons_of_neg separates,
        List.dropWhile_cons_of_neg separates]
      rfl

/-- Taking off the extension stops at a character that is not of it. -/
theorem withoutExtension_append_prefix
    {core : Text}
    {last : Char}
    (ends : core.getLast? = some last)
    (foreign : last ∉ extension)
    (back : Text) :
    ∃ kept, kept <+: back ∧ withoutExtension (core ++ back) = core ++ kept := by
  by_cases bare : extension <:+ core ++ back
  -- The extension lies in `back`, or it reaches into `core`, whose last character it does not have.
  · rcases List.suffix_or_suffix_of_suffix bare (List.suffix_append core back) with inside | beyond
    · obtain ⟨kept, rfl⟩ := inside
      refine ⟨kept, List.prefix_append kept extension, ?_⟩
      rw [← List.append_assoc, withoutExtension_append]
    · obtain ⟨cut, whole⟩ := beyond
      obtain ⟨before, equal⟩ := bare
      rw [← whole, ← List.append_assoc] at equal
      have coreEqual := List.append_cancel_right equal
      rcases List.eq_nil_or_concat cut with rfl | ⟨more, c, rfl⟩
      · refine ⟨[], List.nil_prefix, ?_⟩
        rw [List.nil_append] at whole
        rw [whole, withoutExtension_append, List.append_nil]
      · rw [List.concat_eq_append] at coreEqual whole
        rw [← coreEqual, ← List.append_assoc, List.getLast?_concat] at ends
        cases ends
        rw [← whole] at foreign
        exact absurd (by simp) foreign
  · exact ⟨back, List.prefix_refl back, withoutExtension_of_not_suffix bare⟩

/-- A path that was built around a text shows that text again, with less around it. -/
theorem insideBase?_assemble_around
    (base front back : Text)
    {core : Text}
    {last : Char}
    (opens : core.head? ≠ some '/')
    (ends : core.getLast? = some last)
    (foreign : last ∉ extension) :
    ∃ before after, before <:+ front ∧ after <+: back ∧
      insideBase? base (assemble base (front ++ (core ++ back))) =
        some (before ++ (core ++ after)) := by
  have given : core ≠ [] := by
    rintro rfl
    cases ends
  have givenAround : core ++ back ≠ [] := List.append_ne_nil_of_left_ne_nil given back
  have opensAround : (core ++ back).head? ≠ some '/' := by
    rwa [List.head?_append_of_ne_nil _ given]
  have endsBefore : ((front.dropWhile isSeparator) ++ core).getLast? = some last := by
    rw [List.getLast?_append, ends]
    rfl
  obtain ⟨after, isPrefix, kept⟩ := withoutExtension_append_prefix endsBefore foreign back
  refine ⟨front.dropWhile isSeparator, after, List.dropWhile_suffix _, isPrefix, ?_⟩
  rw [insideBase?_assemble, dropSeparators_append front givenAround opensAround,
    ← List.append_assoc, kept, List.append_assoc]

/-! ### The folder of a path -/

private theorem folder_append
    (base path : Text) :
    folder (base ++ '/' :: path) = base ∨ base ++ ['/'] <+: folder (base ++ '/' :: path) := by
  have separator : (!isSeparator '/') = false := by decide
  unfold folder
  rw [List.reverse_append, List.reverse_cons, List.append_assoc, List.dropWhile_append]
  cases inPath : path.reverse.dropWhile fun c => !isSeparator c with
  | nil =>
    left
    simp [separator]
  | cons last before =>
    right
    refine ⟨before.reverse, ?_⟩
    simp

theorem folder_inFolder
    {base : Text}
    (inside : base ≠ [])
    (path : Text) :
    folder (inFolder base path) = base ∨ base ++ ['/'] <+: folder (inFolder base path) := by
  rw [inFolder, if_neg inside]
  exact folder_append base path

theorem head?_inFolder
    {base path : Text}
    (baseHead : base.head? ≠ some '/')
    (pathHead : path.head? ≠ some '/') :
    (inFolder base path).head? ≠ some '/' := by
  unfold inFolder
  split
  · exact pathHead
  · rename_i inside
    obtain ⟨first, rest, rfl⟩ := List.exists_cons_of_ne_nil inside
    simpa using baseHead

theorem head?_withExtension
    {path : Text}
    (head : path.head? ≠ some '/') :
    (withExtension path).head? ≠ some '/' := by
  by_cases ends : extension <:+ path
  · rwa [withExtension_of_suffix ends]
  · rw [withExtension_of_not_suffix ends]
    cases path with
    | nil => decide
    | cons first rest => simpa using head

/-! ### The shape of a note's path -/

/-- How the path of a note is made of its base folder, in normal form, and the date it shows. -/
structure IsNoteFile (base shown file : Text) : Prop where
  /-- The folder with its separator, the date, and the extension that the date does not have. -/
  spelled :
    file = (if cleanBase base = [] then [] else cleanBase base ++ ['/']) ++ shown ++
      (if extension <:+ shown then [] else extension)
  /-- The file is a note. -/
  ends : extension <:+ file
  /-- No extension is put after another one. -/
  endsTwice : extension ++ extension <:+ file → extension ++ extension <:+ shown
  /-- The path is relative. -/
  opens : file.head? ≠ some '/'
  /-- Taking the path apart gives the date without one extension. -/
  inside :
    ∃ stem, insideBase? base file = some stem ∧
      (shown = stem ++ extension ∨ ¬ extension <:+ shown ∧ shown = stem)
  /-- The file lies in the base folder or deeper. -/
  folder :
    cleanBase base ≠ [] →
      Path.folder file = cleanBase base ∨ cleanBase base ++ ['/'] <+: Path.folder file

theorem isNoteFile_assemble
    (base rendered : Text) :
    IsNoteFile base (rendered.dropWhile isSeparator) (assemble base rendered) where
  spelled := by
    rw [assemble_eq_inFolder, inFolder, withExtension]
    simp only [List.isSuffixOf_iff_suffix]
    split <;> split <;> simp
  ends := by
    rw [assemble_eq_inFolder, suffix_inFolder_iff _ _ _ (by decide)]
    exact suffix_withExtension _
  endsTwice := by
    rw [assemble_eq_inFolder, suffix_inFolder_iff _ _ _ (by decide)]
    exact suffix_of_twice_suffix_withExtension
  opens := by
    rw [assemble_eq_inFolder]
    exact head?_inFolder (head?_cleanBase base) (head?_withExtension (head?_dropSeparators rendered))
  inside := by
    refine ⟨_, insideBase?_assemble base rendered, ?_⟩
    by_cases ends : extension <:+ rendered.dropWhile isSeparator
    · obtain ⟨stem, equal⟩ := ends
      left
      rw [← equal, withoutExtension_append]
    · right
      exact ⟨ends, (withoutExtension_of_not_suffix ends).symm⟩
  folder := by
    intro given
    rw [assemble_eq_inFolder]
    exact folder_inFolder given _

/-- The path of a note is its base folder, the date it shows and one extension; it is relative, lies
in the base folder, and gives the date back when it is taken apart. -/
theorem isNoteFile_of_notePath
    (system : CalendarSystem)
    (calendar : Option Calendar)
    (base : Text)
    (pattern : Option Text)
    (parts : DateParts)
    (surroundings : Surroundings)
    {file : Text}
    (written : (notePath system calendar base pattern parts).answer surroundings = .ok file) :
    ∃ rendered,
      (dateText system calendar pattern parts).answer surroundings = .ok rendered ∧
        IsNoteFile base (rendered.dropWhile isSeparator) file := by
  rw [answer_notePath, Attempt.map_eq_ok_iff] at written
  obtain ⟨rendered, shown, rfl⟩ := written
  exact ⟨rendered, shown, isNoteFile_assemble base rendered⟩

/-- A date that ends in the extension is given no second one, and its leading separator goes. -/
theorem isNoteFile_yearNote :
    ∃ rendered,
      (dateText .gregorian none
          (some (Pattern.Layout.source
            [.plain ['/'], .symbol (.field .year), .literal ['.', 'm', 'd']]))
          ⟨2024, none, none, none, none⟩).answer
            ⟨⟨739330, by decide, by decide⟩, .standard⟩ = .ok rendered ∧
        IsNoteFile " /notes/ ".toList (rendered.dropWhile isSeparator) "notes/2024.md".toList := by
  apply isNoteFile_of_notePath
  rw [notePath_source_eq_ok_iff (Calendar.standsFor_none .gregorian) (by decide) (by decide)]
  exact ⟨by decide, ⟨.gregorian, ⟨738886, by decide, by decide⟩⟩, "/2024.md".toList, rfl, rfl,
    by decide⟩

end Path

end Daybook
