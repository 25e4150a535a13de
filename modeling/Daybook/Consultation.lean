import Daybook.Calendar.Date

/-!
Contract: work that consults its surroundings.

Owns:
- the surroundings that an answer may depend on: the clock and the locale in force;
- the footprint that work leaves behind, whether it succeeds or fails;
- the monad of such work, with one lemma for the answer and one for the footprint of each step.

Does not own: the session that supplies surroundings and keeps footprints.
-/

namespace Daybook

/-- What the answer of an operation may depend on besides its arguments. -/
structure Surroundings where
  today : Day
  locale : Locale
  deriving DecidableEq, Repr

/-- What work has used: the locale, and the shared calendar of either system. -/
structure Footprint where
  usesLocale : Bool
  usesSolar : Bool
  usesGregorian : Bool
  deriving DecidableEq, Repr

namespace Footprint

def nothing : Footprint := ⟨false, false, false⟩

def union (first second : Footprint) : Footprint :=
  ⟨first.usesLocale || second.usesLocale, first.usesSolar || second.usesSolar,
    first.usesGregorian || second.usesGregorian⟩

def ofSystem : CalendarSystem → Footprint
  | .solar => ⟨false, true, false⟩
  | .gregorian => ⟨false, false, true⟩

@[simp] theorem nothing_union (footprint : Footprint) : nothing.union footprint = footprint := by
  simp [nothing, union]

@[simp] theorem union_nothing (footprint : Footprint) : footprint.union nothing = footprint := by
  simp [nothing, union]

end Footprint

/-- Work that consults the surroundings, answers or fails, and leaves a footprint. -/
def Consultation (α : Type) := Surroundings → Except Fault α × Footprint

namespace Consultation

def answer {α : Type} (work : Consultation α) (surroundings : Surroundings) : Except Fault α :=
  (work surroundings).1

def footprint {α : Type} (work : Consultation α) (surroundings : Surroundings) : Footprint :=
  (work surroundings).2

/-- One piece of work after another; the second one depends on the first one's answer and is left
out if that fails. -/
def bind
    {α β : Type}
    (work : Consultation α)
    (next : α → Consultation β) :
    Consultation β := fun surroundings =>
  match work surroundings with
  | (.ok value, used) =>
    let (result, usedNext) := next value surroundings
    (result, used.union usedNext)
  | (.error fault, used) => (.error fault, used)

instance : Monad Consultation where
  pure value := fun _ => (.ok value, .nothing)
  bind := bind

/-- Work that consults nothing. -/
def ofExcept {α : Type} (result : Except Fault α) : Consultation α :=
  fun _ => (result, .nothing)

/-- Mends the fault of some work, if it has one; what the work has used stays used. -/
def orElse
    {α : Type}
    (work : Consultation α)
    (mend : Fault → Except Fault α) :
    Consultation α := fun surroundings =>
  match work surroundings with
  | (.ok value, used) => (.ok value, used)
  | (.error fault, used) => (mend fault, used)

def today : Consultation Day :=
  fun surroundings => (.ok surroundings.today, .nothing)

def locale : Consultation Locale :=
  fun surroundings => (.ok surroundings.locale, ⟨true, false, false⟩)

/-- The locale for dates of the given calendar system; only solar dates use the one in force. -/
def localeFor : CalendarSystem → Consultation Locale
  | .solar => locale
  | .gregorian => pure .standard

/-- Notes the use of the shared calendar of a system. -/
def noteCalendar (system : CalendarSystem) : Consultation Unit :=
  fun _ => (.ok (), .ofSystem system)

variable {α β : Type}

@[simp] theorem answer_pure (value : α) (surroundings : Surroundings) :
    (pure value : Consultation α).answer surroundings = .ok value := rfl

@[simp] theorem footprint_pure (value : α) (surroundings : Surroundings) :
    (pure value : Consultation α).footprint surroundings = .nothing := rfl

@[simp] theorem answer_ofExcept (result : Except Fault α) (surroundings : Surroundings) :
    (ofExcept result).answer surroundings = result := rfl

@[simp] theorem footprint_ofExcept (result : Except Fault α) (surroundings : Surroundings) :
    (ofExcept result).footprint surroundings = .nothing := rfl

@[simp] theorem answer_today (surroundings : Surroundings) :
    today.answer surroundings = .ok surroundings.today := rfl

@[simp] theorem answer_locale (surroundings : Surroundings) :
    locale.answer surroundings = .ok surroundings.locale := rfl

@[simp] theorem answer_noteCalendar (system : CalendarSystem) (surroundings : Surroundings) :
    (noteCalendar system).answer surroundings = .ok () := rfl

/-- The answer of two pieces of work is that of the second at the answer of the first. -/
@[simp] theorem answer_bind
    (work : Consultation α)
    (next : α → Consultation β)
    (surroundings : Surroundings) :
    (work >>= next).answer surroundings =
      (work.answer surroundings).bind fun value => (next value).answer surroundings := by
  show (bind work next surroundings).1 = _
  unfold bind answer
  cases work surroundings with
  | mk result used => cases result <;> rfl

/-- Mending leaves an answer alone. -/
theorem answer_orElse
    (work : Consultation α)
    (mend : Fault → Except Fault α)
    (surroundings : Surroundings) :
    (work.orElse mend).answer surroundings =
      match work.answer surroundings with
      | .ok value => .ok value
      | .error fault => mend fault := by
  show (orElse work mend surroundings).1 = _
  unfold orElse answer
  cases work surroundings with
  | mk result used => cases result <;> rfl

/-- Mending changes nothing about what was used. -/
@[simp] theorem footprint_orElse
    (work : Consultation α)
    (mend : Fault → Except Fault α)
    (surroundings : Surroundings) :
    (work.orElse mend).footprint surroundings = work.footprint surroundings := by
  show (orElse work mend surroundings).2 = _
  unfold orElse footprint
  cases work surroundings with
  | mk result used => cases result <;> rfl

/-- The footprint of two pieces of work joins theirs, as far as the second is reached. -/
theorem footprint_bind
    (work : Consultation α)
    (next : α → Consultation β)
    (surroundings : Surroundings) :
    (work >>= next).footprint surroundings =
      (work.footprint surroundings).union
        (match work.answer surroundings with
        | .ok value => (next value).footprint surroundings
        | .error _ => .nothing) := by
  show (bind work next surroundings).2 = _
  unfold bind answer footprint
  cases work surroundings with
  | mk result used => cases result <;> simp

end Consultation

end Daybook
