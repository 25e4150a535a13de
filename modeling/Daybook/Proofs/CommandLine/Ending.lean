import Daybook.Proofs.Calendar.Reach
import Daybook.Proofs.CommandLine.Reading
import Daybook.Proofs.Path.Figures
import Daybook.Session.Request

/-!
Contract: how a command line ends.

Owns:
- the ends that a command line is meant to have;
- the commands that break off with a fault instead, told by what the line gives and by today;
- the end of every line that does not ask for help.

Does not own: what the command line prints where it succeeds.
-/

namespace Daybook

open Attempt

namespace CommandLine

/-- The ends that a command line is meant to have: it prints one line, it finds no date in a path
and warns of that once, it was misused, or it reports a date that the calendar does not have. -/
inductive EndsInOrder (line : List Text) : Report → Prop where
  | printed (text : Text) : EndsInOrder line ⟨0, text ++ ['\n'], [], none⟩
  | nothingFound
    {leading : Leading}
    {base : Option Text}
    {path : Text}
    (isRead : CommandLine.read line = .ok ⟨leading, .dateOf base path⟩) :
    EndsInOrder line
      ⟨1, [], ["WARNING datepath: datepath: no date found in ".toList ++ path], none⟩
  | misused (unread : CommandLine.read line = .error .misuse) :
    EndsInOrder line ⟨2, [], [], none⟩
  | refused
    {invocation : Invocation}
    {fault : Fault}
    (isRead : CommandLine.read line = .ok invocation)
    (isDate : fault.category = .date) :
    EndsInOrder line ⟨2, [], [], some ("datepath: error: ".toList ++ fault.message.getD [])⟩

/-! ### Commands that break off -/

/-- Whether a command about a date breaks off: a number or the calendar was left without a value, or
the text of the date can be neither found nor refused. -/
def LosesDate (today : Day) (pattern : Option Text) (date : Record) (system : Value) : Prop :=
  LacksNumber date ∨ system = noValue ∨
    ∃ parts chosen,
      DateParts.ofRecord date = .ok parts ∧ Path.chooseSystem system = .ok chosen ∧
        Path.LosesText chosen today pattern parts

/-- Whether a command breaks off on a given day; the base folder may have been left without a value,
and a path can show figures that have none. -/
def Command.BreaksOff (today : Day) : Command → Prop
  | .dateText pattern date system => LosesDate today pattern date system
  | .notePath base pattern date system => base = none ∨ LosesDate today pattern date system
  | .dateOf base path =>
    base = none ∨
      ∃ folder text figures,
        base = some folder ∧ Path.insideBase? folder path = some text ∧
          Path.shown? text = some figures ∧ ¬ figures.HaveValues

def Invocation.BreaksOff (today : Day) (invocation : Invocation) : Prop :=
  invocation.leading.dialect = noValue ∨ invocation.command.BreaksOff today

/-- What is done with the date of a command breaks off exactly if the date is lost. -/
theorem breaksOff_date_iff
    {β : Type}
    {date : Record}
    {system : Value}
    (isDate : IsDate date)
    (isSystem : IsSystem system)
    {today : Day}
    {pattern : Option Text}
    {work : DateParts → CalendarSystem → Except Fault β}
    (textLost : ∀ parts chosen, parts.month ≠ none →
      (∀ n ∈ parts.numbers, Text.isWritable n = true) →
      (BreaksOff (work parts chosen) ↔ Path.LosesText chosen today pattern parts)) :
    BreaksOff (DateParts.ofRecord date >>= fun parts =>
        Path.chooseSystem system >>= fun chosen => work parts chosen) ↔
      LosesDate today pattern date system := by
  unfold LosesDate
  by_cases lacks : LacksNumber date
  · rw [ofRecord_of_lacksNumber isDate lacks]
    show BreaksOff (.error valueAbsent) ↔ _
    simp [lacks, valueAbsent, Fault.category]
  · obtain ⟨parts, made, hasMonth, writable⟩ := exists_ofRecord isDate lacks
    rw [made]
    rcases isSystem with rfl | ⟨chosen, rfl⟩
    · show BreaksOff (.error (.unknownSystem noValue)) ↔ _
      simp [Fault.category]
    · have given : Value.text chosen.name ≠ noValue := by
        rintro ⟨⟩
      have named : Path.chooseSystem (.text chosen.name) = .ok chosen := by
        rw [Path.chooseSystem, CalendarSystem.ofValue?_name]
      rw [named]
      show BreaksOff (work parts chosen) ↔ _
      simp [lacks, given, textLost parts chosen hasMonth writable]

theorem breaksOff_parts_iff (figures : Path.DateFigures) :
    BreaksOff figures.parts ↔ ¬ figures.HaveValues := by
  cases read : figures.parts with
  | ok parts => simp [Path.DateFigures.haveValues_of_parts read]
  | error fault =>
    obtain ⟨run, rfl⟩ := Path.DateFigures.numeral_of_parts read
    have lacks : ¬ figures.HaveValues := by
      intro valued
      obtain ⟨parts, found, -⟩ := Path.DateFigures.exists_parts valued
      rw [read] at found
      cases found
    simp [lacks, Fault.category]

theorem breaksOff_dateOf?_iff (folder path : Text) :
    BreaksOff (Path.dateOf? folder path) ↔
      ∃ text figures, Path.insideBase? folder path = some text ∧
        Path.shown? text = some figures ∧ ¬ figures.HaveValues := by
  unfold Path.dateOf? Path.recover?
  cases Path.insideBase? folder path with
  | none => simp
  | some text =>
    dsimp only
    cases shown : Path.shown? text with
    | none => simp [shown]
    | some figures =>
      show BreaksOff (figures.parts >>= _) ↔ _
      rw [breaksOff_bind_pure_iff, breaksOff_parts_iff]
      simp [shown]

theorem breaksOff_perform_iff
    {command : Command}
    (sound : command.IsSound)
    (surroundings : Surroundings) :
    BreaksOff (command.perform.answer surroundings) ↔ command.BreaksOff surroundings.today := by
  cases command with
  | dateText pattern date system =>
    simp only [Command.perform, Consultation.answer_bind]
    apply breaksOff_date_iff sound.1 sound.2
    intro parts chosen hasMonth writable
    rw [← Path.breaksOff_dateText_iff chosen pattern hasMonth writable]
    exact breaksOff_bind_pure_iff
  | notePath base pattern date system =>
    simp only [Command.perform, Consultation.answer_bind]
    cases base with
    | none =>
      show BreaksOff (DateParts.ofRecord date >>= fun _ => .error .textAbsent) ↔ none = none ∨ _
      simp only [true_or, iff_true]
      by_cases lacks : LacksNumber date
      · rw [ofRecord_of_lacksNumber sound.1 lacks]
        exact ⟨valueAbsent, rfl, by decide⟩
      · obtain ⟨parts, made, -⟩ := exists_ofRecord sound.1 lacks
        rw [made]
        exact ⟨.textAbsent, rfl, by decide⟩
    | some folder =>
      show BreaksOff _ ↔ some folder = none ∨ LosesDate surroundings.today pattern date system
      simp only [reduceCtorEq, false_or]
      apply breaksOff_date_iff sound.1 sound.2
      intro parts chosen hasMonth writable
      rw [← Path.breaksOff_notePath_iff chosen folder pattern hasMonth writable]
      exact breaksOff_bind_pure_iff
  | dateOf base path =>
    simp only [Command.perform, Consultation.answer_bind]
    cases base with
    | none =>
      show BreaksOff (.error .textAbsent) ↔ none = none ∨ _
      simp [Fault.category]
    | some folder =>
      show BreaksOff (Path.dateOf? folder path >>= _) ↔ some folder = none ∨ _
      rw [breaksOff_bind_iff, breaksOff_dateOf?_iff]
      constructor
      · rintro (⟨text, figures, inside, shown, lack⟩ | ⟨found, -, broken⟩)
        · exact .inr ⟨folder, text, figures, rfl, inside, shown, lack⟩
        · cases found <;> exact absurd broken (breaksOff_ok_iff _).1
      · rintro (⟨⟨⟩⟩ | ⟨_, text, figures, ⟨⟩, inside, shown, lack⟩)
        exact .inl ⟨text, figures, inside, shown, lack⟩

/-! ### Reports -/

/-- A report is what the command comes to, or tells of a date that the calendar does not have. -/
theorem endsInOrder_of_report
    {line : List Text}
    {invocation : Invocation}
    (isRead : CommandLine.read line = .ok invocation)
    {surroundings : Surroundings}
    {report : Report}
    (reported : invocation.command.report.answer surroundings = .ok report) :
    EndsInOrder line report := by
  rw [Command.report, Consultation.answer_orElse] at reported
  cases performed : invocation.command.perform.answer surroundings with
  | error fault =>
    rw [performed] at reported
    dsimp only at reported
    unfold Command.reportFault at reported
    split at reported
    · rename_i isDate
      cases reported
      exact .refused isRead isDate
    · cases reported
  | ok performedReport =>
    rw [performed] at reported
    cases reported
    obtain ⟨leading, command⟩ := invocation
    cases command with
    | dateText pattern date system =>
      simp only [Command.perform, Consultation.answer_bind] at performed
      obtain ⟨parts, -, performed⟩ := bind_eq_ok_iff.1 performed
      obtain ⟨chosen, -, performed⟩ := bind_eq_ok_iff.1 performed
      obtain ⟨text, -, same⟩ := bind_eq_ok_iff.1 performed
      cases same
      exact .printed text
    | notePath base pattern date system =>
      simp only [Command.perform, Consultation.answer_bind] at performed
      obtain ⟨parts, -, performed⟩ := bind_eq_ok_iff.1 performed
      obtain ⟨folder, -, performed⟩ := bind_eq_ok_iff.1 performed
      obtain ⟨chosen, -, performed⟩ := bind_eq_ok_iff.1 performed
      obtain ⟨text, -, same⟩ := bind_eq_ok_iff.1 performed
      cases same
      exact .printed text
    | dateOf base path =>
      simp only [Command.perform, Consultation.answer_bind] at performed
      obtain ⟨folder, -, performed⟩ := bind_eq_ok_iff.1 performed
      obtain ⟨found, -, same⟩ := bind_eq_ok_iff.1 performed
      cases found with
      | some parts =>
        cases same
        exact .printed (partsLine parts)
      | none =>
        cases same
        exact .nothingFound isRead

theorem exists_fault_of_report_iff
    (command : Command)
    (surroundings : Surroundings) :
    (∃ fault, command.report.answer surroundings = .error fault) ↔
      BreaksOff (command.perform.answer surroundings) := by
  rw [Command.report, Consultation.answer_orElse]
  cases command.perform.answer surroundings with
  | ok report => simp
  | error fault =>
    dsimp only
    rw [breaksOff_error_iff, Command.reportFault]
    split <;> simp_all

end CommandLine

namespace Session

open CommandLine

end Session

end Daybook
