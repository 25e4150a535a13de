import Daybook.Session.Choice

/-!
Contract: what outlives a request.

Owns:
- the type `Session`: the clock, the locale if one was chosen or needed, the shared calendars that
  were used, and the stored settings;
- what of a session work can consult, and what work leaves in it;
- carrying out work in a session.

Does not own: the requests.
-/

namespace Daybook

/-- What outlives a request.  A locale comes to be in force when it is chosen, or when the first
solar date needs one. -/
structure Session where
  today : Day
  locale : Option Locale
  solarShared : Bool
  gregorianShared : Bool
  store : Store
  deriving Repr

namespace Session

def start (today : Day) : Session :=
  ⟨today, none, false, false, []⟩

def effectiveLocale (session : Session) : Locale :=
  session.locale.getD .standard

/-- What work in the session can consult. -/
def surroundings (session : Session) : Surroundings :=
  ⟨session.today, session.effectiveLocale⟩

/-- The session after work with the given footprint. -/
def marked (session : Session) (used : Footprint) : Session :=
  { session with
    locale := if used.usesLocale then some session.effectiveLocale else session.locale
    solarShared := session.solarShared || used.usesSolar
    gregorianShared := session.gregorianShared || used.usesGregorian }

/-- Whether the shared calendar of a system was used. -/
def hasShared (session : Session) : CalendarSystem → Bool
  | .solar => session.solarShared
  | .gregorian => session.gregorianShared

def withLocale (session : Session) (locale : Locale) : Session :=
  { session with locale := some locale }

/-- The session with settings stored under a name, if there is one. -/
def withStored (session : Session) (name : Option Text) (settings : Settings) : Session :=
  match name with
  | some name => { session with store := (name, settings) :: session.store }
  | none => session

/-- Carries out work in a session. -/
def consult
    {α : Type}
    (session : Session)
    (work : Consultation α) :
    Except Fault α × Session :=
  (work.answer session.surroundings, session.marked (work.footprint session.surroundings))

/-- Work that used nothing leaves the session as it was. -/
@[simp] theorem marked_nothing (session : Session) : session.marked .nothing = session := by
  simp [marked, Footprint.nothing]

/-- Using the locale does not change which one is in force. -/
@[simp] theorem effectiveLocale_marked
    (session : Session)
    (used : Footprint) :
    (session.marked used).effectiveLocale = session.effectiveLocale := by
  unfold marked effectiveLocale
  cases used.usesLocale <;> simp

/-- What work leaves in a session is nothing that work can consult. -/
@[simp] theorem surroundings_marked
    (session : Session)
    (used : Footprint) :
    (session.marked used).surroundings = session.surroundings := by
  unfold surroundings
  rw [effectiveLocale_marked]
  rfl

end Session

end Daybook
