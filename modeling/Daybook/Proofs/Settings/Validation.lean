import Daybook.Proofs.Attempt
import Daybook.Proofs.Record
import Daybook.Session.Request
import Mathlib.Tactic.MkIffOfInductiveProp

/-!
Contract: which changes to the settings are accepted.

Owns:
- what it is for a value to suit the setting of a name, stated without the check;
- the check of single values, of all changes, and of a record of changes given to an operation;
- the names among the members of settings that change the outcome;
- changes to settings alone, and the value that each setting has after them;
- the calendar system and the locale of settings that were accepted.

Does not own: settings that are made without a check.
-/

namespace Daybook

open Attempt

theorem Dialect.ofName?_eq_some_iff
    {given : Text}
    {dialect : Dialect} :
    ofName? given = some dialect ↔ given = dialect.name := by
  constructor
  · intro found
    unfold ofName? at found
    have same := List.find?_some found
    exact (beq_iff_eq.1 same).symm
  · rintro rfl
    exact ofName?_name dialect

namespace Settings

/-! ### Single values -/

/-- Whether a setting is turned on and off; all others are texts. -/
def IsSwitch (name : Text) : Prop :=
  name = quarterlyName ∨ name = digitsName

instance (name : Text) : Decidable (IsSwitch name) :=
  inferInstanceAs (Decidable (name = quarterlyName ∨ name = digitsName))

/-- Whether a value may be given under a name: there is such a setting, the value is of its type,
and among the choices where the setting has any. -/
@[mk_iff]
structure Suits (name : Text) (value : Value) : Prop where
  known : name ∈ Record.names defaults
  ofSwitch : IsSwitch name → ∃ on, value = .bool on
  ofText : ¬ IsSwitch name → ∃ given, value = .text given
  ofCalendar : name = calendarName → ∃ system, CalendarSystem.ofValue? value = some system
  ofDialect : name = dialectName → ∃ dialect : Dialect, value = .text dialect.name

/-- The kind of the setting of a name, if there is one. -/
def kindOf (name : Text) : Kind :=
  if name = calendarName then .system
  else if name = dialectName then .dialect
  else if IsSwitch name then .switch
  else .text

/-- The table of kinds has a kind for every setting with a default. -/
theorem kind?_of_mem_defaults :
    ∀ name ∈ Record.names defaults, kind? name = some (kindOf name) := by
  decide

/-- The table of kinds has no kind for a name without a default. -/
theorem mem_defaults_of_mem_kinds :
    ∀ field ∈ kinds, field.1 ∈ Record.names defaults := by
  decide

theorem kind?_eq_some_iff
    {name : Text}
    {kind : Kind} :
    kind? name = some kind ↔ name ∈ Record.names defaults ∧ kindOf name = kind := by
  constructor
  · intro found
    have known := mem_defaults_of_mem_kinds _ (Record.mem_of_lookup found)
    exact ⟨known, Option.some.inj ((kind?_of_mem_defaults name known).symm.trans found)⟩
  · rintro ⟨known, rfl⟩
    exact kind?_of_mem_defaults name known

/-- Whether a kind of setting takes a value. -/
def Kind.Takes : Kind → Value → Prop
  | switch, value => ∃ on, value = .bool on
  | text, value => ∃ given, value = .text given
  | system, value =>
    (∃ given, value = .text given) ∧ ∃ system, CalendarSystem.ofValue? value = some system
  | dialect, value => ∃ dialect : Dialect, value = .text dialect.name

theorem Kind.fault?_eq_none_iff
    {kind : Kind}
    {name : Text}
    {value : Value} :
    kind.fault? name value = none ↔ kind.Takes value := by
  cases value with
  | bool on => cases kind <;> simp [Kind.fault?, Kind.Takes]
  | text given =>
    cases kind with
    | switch => simp [Kind.fault?, Kind.Takes]
    | text => simp [Kind.fault?, Kind.Takes]
    | system =>
      cases found : CalendarSystem.ofValue? (.text given) <;> simp [Kind.fault?, Kind.Takes, found]
    | dialect =>
      simp only [Kind.fault?, Kind.Takes, Value.text.injEq, ← Dialect.ofName?_eq_some_iff]
      cases Dialect.ofName? given <;> simp
  | null | int | real | list | record => cases kind <;> simp [Kind.fault?, Kind.Takes]

theorem Kind.category_of_fault?
    {kind : Kind}
    {name : Text}
    {value : Value}
    {fault : Fault}
    (found : kind.fault? name value = some fault) :
    fault.category = .setting := by
  unfold Kind.fault? at found
  repeat' split at found
  all_goals cases found
  all_goals rfl

/-- The kind of a setting takes exactly the values that suit it. -/
theorem takes_kindOf_iff
    {name : Text}
    {value : Value}
    (known : name ∈ Record.names defaults) :
    (kindOf name).Takes value ↔ Suits name value := by
  unfold kindOf
  by_cases isCalendar : name = calendarName
  · subst isCalendar
    have notSwitch : ¬ IsSwitch calendarName := by decide
    have notDialect : calendarName ≠ dialectName := by decide
    simp [Kind.Takes, suits_iff, known, notSwitch, notDialect]
  by_cases isDialect : name = dialectName
  · subst isDialect
    have notSwitch : ¬ IsSwitch dialectName := by decide
    have isText : (∃ dialect : Dialect, value = .text dialect.name) → ∃ given, value = .text given :=
      fun ⟨dialect, named⟩ => ⟨dialect.name, named⟩
    simpa [Kind.Takes, suits_iff, known, notSwitch, isCalendar] using isText
  by_cases isSwitch : IsSwitch name
  · simp [Kind.Takes, suits_iff, known, isCalendar, isDialect, isSwitch]
  · simp [Kind.Takes, suits_iff, known, isCalendar, isDialect, isSwitch]

/-- The check of a single value finds no fault exactly with the values that suit. -/
theorem fault?_eq_none_iff
    {name : Text}
    {value : Value} :
    fault? name value = none ↔ Suits name value := by
  unfold fault?
  cases found : kind? name with
  | none =>
    have unknown : name ∉ Record.names defaults := by
      intro known
      rw [kind?_of_mem_defaults name known] at found
      cases found
    constructor
    · intro impossible
      cases impossible
    · intro suits
      exact absurd suits.known unknown
  | some kind =>
    obtain ⟨known, rfl⟩ := kind?_eq_some_iff.1 found
    exact Kind.fault?_eq_none_iff.trans (takes_kindOf_iff known)

theorem category_of_fault?
    {name : Text}
    {value : Value}
    {fault : Fault}
    (found : fault? name value = some fault) :
    fault.category = .setting := by
  unfold fault? at found
  split at found
  · cases found
    rfl
  · exact Kind.category_of_fault? found

theorem suits_of_mem_defaults :
    ∀ field ∈ defaults, Suits field.1 field.2 := by
  have faultless : ∀ field ∈ defaults, (fault? field.1 field.2).isNone = true := by decide
  intro field member
  exact fault?_eq_none_iff.1 (Option.isNone_iff_eq_none.1 (faultless field member))

/-! ### All changes -/

theorem changesRecord_eq_ok_iff
    {settings : Settings}
    {fields : Record} :
    settings.changesRecord = .ok fields ↔ settings.changes = .record fields := by
  unfold changesRecord
  split
  · next found => simp [found]
  · next notRecord =>
    constructor
    · intro impossible
      cases impossible
    · intro isRecord
      exact absurd isRecord (notRecord fields)

/-- Changes are valid if what counts as the changes is a record whose values all suit. -/
theorem check_eq_ok_iff
    {settings : Settings} :
    settings.check = .ok () ↔
      ∃ examined, settings.changes = .record examined ∧
        ∀ field ∈ examined, Suits field.1 field.2 := by
  unfold check
  rw [bind_eq_ok_iff]
  refine exists_congr fun examined => and_congr changesRecord_eq_ok_iff ?_
  split
  · next fault found =>
    obtain ⟨field, member, faulty⟩ := List.exists_of_findSome?_eq_some found
    constructor
    · intro impossible
      cases impossible
    · intro suit
      rw [fault?_eq_none_iff.2 (suit field member)] at faulty
      cases faulty
  · next faultless =>
    refine iff_of_true rfl fun field member => ?_
    exact fault?_eq_none_iff.1 (List.findSome?_eq_none_iff.1 faultless field member)

/-- A record of changes is refused for a value that does not suit, and as settings. -/
theorem refused_of_changes
    {settings : Settings}
    {examined : Record}
    {fault : Fault}
    (isRecord : settings.changes = .record examined)
    (refused : settings.check = .error fault) :
    fault.category = .setting ∧ ∃ field ∈ examined, ¬ Suits field.1 field.2 := by
  unfold check at refused
  rw [changesRecord_eq_ok_iff.2 isRecord] at refused
  simp only [bind, Except.bind] at refused
  split at refused
  · next found =>
    cases refused
    obtain ⟨field, member, faulty⟩ := List.exists_of_findSome?_eq_some found
    refine ⟨category_of_fault? faulty, field, member, ?_⟩
    rw [← fault?_eq_none_iff, faulty]
    exact Option.some_ne_none _
  · cases refused

/-- What counts as the changes but is no record is refused otherwise. -/
theorem category_of_changes_ne_record
    {settings : Settings}
    {fault : Fault}
    (notRecord : ∀ examined, settings.changes ≠ .record examined)
    (refused : settings.check = .error fault) :
    fault.category ≠ .setting := by
  obtain failed | ⟨examined, isRecord, -⟩ := bind_eq_error_iff.1 refused
  · unfold changesRecord at failed
    split at failed
    · cases failed
    · cases failed
      simp [Fault.category]
  · exact absurd (changesRecord_eq_ok_iff.1 isRecord) (notRecord examined)

/-! ### Names among the members -/

/-- The names of members that no value can be put under. -/
def fixedMembers : List Text :=
  [systemMember, "__weakref__".toList, "__class__".toList]

/-- The name of the record of all members. -/
def membersMember : Text := "__dict__".toList

theorem memberFault?_eq_none_iff
    {name : Text}
    {value : Value} :
    memberFault? name value = none ↔ name ∉ fixedMembers ∧ name ≠ membersMember := by
  unfold memberFault? fixedMembers membersMember
  split
  · next fixed => obtain rfl | rfl := fixed <;> simp
  split
  · next fixed => simp [fixed]
  split
  · next fixed => split <;> simp [fixed]
  · simp_all

theorem category_of_memberFault?
    {name : Text}
    {value : Value}
    {fault : Fault}
    (found : memberFault? name value = some fault) :
    fault.category ≠ .setting := by
  unfold memberFault? at found
  repeat' split at found
  all_goals cases found
  all_goals simp [Fault.category]

/-- Names that no value can be put under are refused before anything is checked. -/
theorem ofRecord_of_mem_fixedMembers
    {fields : Record}
    {name : Text}
    (isFixed : name ∈ fixedMembers)
    (member : name ∈ Record.names fields) :
    ∃ fault, ofRecord fields = .error fault ∧ fault.category ≠ .setting := by
  obtain ⟨⟨name, value⟩, isField, rfl⟩ := List.mem_map.1 member
  unfold ofRecord
  split
  · next fault found =>
    obtain ⟨faulty, -, isFault⟩ := List.exists_of_findSome?_eq_some found
    exact ⟨fault, rfl, category_of_memberFault? isFault⟩
  · next faultless =>
    have free := memberFault?_eq_none_iff.1 (List.findSome?_eq_none_iff.1 faultless _ isField)
    exact absurd isFixed free.1

theorem ofRecord_of_free
    {fields : Record}
    (free : ∀ name ∈ fixedMembers, name ∉ Record.names fields)
    (noMembers : membersMember ∉ Record.names fields) :
    ofRecord fields = .ok ⟨fields⟩ := by
  have faultless :
      (fields.findSome? fun field => memberFault? field.1 field.2) = none := by
    rw [List.findSome?_eq_none_iff]
    rintro ⟨name, value⟩ member
    have isName := Record.mem_names_of_mem member
    refine memberFault?_eq_none_iff.2 ⟨fun isFixed => free name isFixed isName, ?_⟩
    rintro rfl
    exact noMembers isName
  rw [ofRecord, faultless]

/-- An operation that is given a record makes settings of it, whose changes it checks. -/
theorem accept_record
    {fields : Record}
    (distinct : (Record.names fields).Nodup) :
    accept (.value (.record fields)) =
      (do
        let found ← ofRecord fields
        found.check
        pure found) := by
  have resolved : Given.resolve (.value (.record fields)) = ofRecord fields :=
    calc
      Given.resolve (.value (.record fields))
          = ofRecord (Record.merge (Record.merge [] fields) []) := rfl
      _ = ofRecord (Record.merge fields []) := by rw [Record.merge_nil_left distinct]
      _ = ofRecord fields := rfl
  rw [accept, resolved]

section Changes

variable {fields : Record}

/-- What counts as the changes is all of them, if none has the name of their record. -/
theorem changes_of_get?_eq_none
    (noRecord : Record.get? fields changesMember = none) :
    changes ⟨fields⟩ = .record fields := by
  unfold changes
  rw [noRecord, Option.getD_none]

/-- What counts as the changes is the value under the name of their record. -/
theorem changes_of_get?_eq_some
    {value : Value}
    (found : Record.get? fields changesMember = some value) :
    changes ⟨fields⟩ = value := by
  unfold changes
  rw [found, Option.getD_some]

/-- The name of the record of changes is no setting, so no value suits it. -/
theorem not_suit_of_get?
    {value : Value}
    (found : Record.get? fields changesMember = some value) :
    ¬ ∀ field ∈ fields, Suits field.1 field.2 := by
  have unknown : changesMember ∉ Record.names defaults := by decide
  intro suit
  exact unknown (suit _ (Record.mem_of_get? found)).known

variable
  (distinct : (Record.names fields).Nodup)
  (free : ∀ name ∈ fixedMembers, name ∉ Record.names fields)
  (noMembers : membersMember ∉ Record.names fields)

include distinct free noMembers

/-- Where no name is in the way, an operation is given what the record says, once it is checked. -/
theorem accept_of_free :
    accept (.value (.record fields)) = (check ⟨fields⟩).map fun _ => ⟨fields⟩ := by
  rw [accept_record distinct, ofRecord_of_free free noMembers]
  simp only [bind, Except.bind]
  cases check ⟨fields⟩ <;> rfl

theorem accept_eq_ok_iff
    {settings : Settings} :
    accept (.value (.record fields)) = .ok settings ↔
      settings = ⟨fields⟩ ∧ check ⟨fields⟩ = .ok () := by
  rw [accept_of_free distinct free noMembers]
  cases check ⟨fields⟩ <;> simp [Except.map, eq_comm]

theorem accept_eq_error_iff
    {fault : Fault} :
    accept (.value (.record fields)) = .error fault ↔ check ⟨fields⟩ = .error fault := by
  rw [accept_of_free distinct free noMembers]
  cases check ⟨fields⟩ <;> simp [Except.map]

end Changes

/-! ### Changes to settings that there are -/

section Known

variable
  {fields : Record}
  (distinct : (Record.names fields).Nodup)
  (known : ∀ name ∈ Record.names fields, name ∈ Record.names defaults)

include distinct in
/-- Each setting has the value that is given for it, or its default. -/
theorem get?_of_nodup
    (name : Text) :
    get? ⟨fields⟩ name = (Record.get? fields name).or (Record.get? defaults name) := by
  rw [get?, values, Record.get?_merge, Record.get?_reverse distinct]

include known

/-- Changes to settings alone are what counts as the changes. -/
theorem changes_of_known :
    changes ⟨fields⟩ = .record fields := by
  have unknown : changesMember ∉ Record.names defaults := by decide
  exact changes_of_get?_eq_none
    (Record.get?_eq_none_iff.2 fun member => unknown (known changesMember member))

include distinct

/-- An operation that is given changes to settings alone only has to check them. -/
theorem accept_of_known :
    accept (.value (.record fields)) = (check ⟨fields⟩).map fun _ => ⟨fields⟩ := by
  have unknown : ∀ name ∈ membersMember :: fixedMembers, name ∉ Record.names defaults := by decide
  have absent : ∀ name ∈ membersMember :: fixedMembers, name ∉ Record.names fields :=
    fun name isKept member => unknown name isKept (known name member)
  obtain ⟨noMembers, free⟩ := List.forall_mem_cons.1 absent
  exact accept_of_free distinct free noMembers

omit known in
/-- Changes that all suit their settings are accepted. -/
theorem accept_of_suit
    (suit : ∀ field ∈ fields, Suits field.1 field.2) :
    accept (.value (.record fields)) = .ok ⟨fields⟩ := by
  have known : ∀ name ∈ Record.names fields, name ∈ Record.names defaults := by
    intro name member
    obtain ⟨field, isField, rfl⟩ := List.mem_map.1 member
    exact (suit field isField).known
  have checked := check_eq_ok_iff.2 ⟨fields, changes_of_known known, suit⟩
  rw [accept_of_known distinct known, checked]
  rfl

end Known

/-! ### Accepted settings -/

section Accepted

variable
  {fields : Record}
  (suit : ∀ field ∈ fields, Suits field.1 field.2)

include suit

/-- Each setting has a value that suits it: the one that was given, or its default. -/
theorem exists_get?_suits
    {name : Text}
    (known : name ∈ Record.names defaults) :
    ∃ value, get? ⟨fields⟩ name = some value ∧ Suits name value := by
  obtain ⟨value, found⟩ := Record.exists_get?_merge_of_mem_names fields known
  refine ⟨value, found, ?_⟩
  obtain given | default := Record.mem_or_get?_of_get?_merge found
  · exact suit _ given
  · exact suits_of_mem_defaults _ (Record.mem_of_get? default)

theorem exists_system :
    ∃ chosen, system ⟨fields⟩ = .ok chosen := by
  have known : calendarName ∈ Record.names defaults := by decide
  obtain ⟨value, found, suits⟩ := exists_get?_suits suit known
  obtain ⟨chosen, isChosen⟩ := suits.ofCalendar rfl
  refine ⟨chosen, ?_⟩
  simp only [system, found, Option.getD_some, isChosen]

theorem exists_locale :
    ∃ chosen, locale ⟨fields⟩ = .ok chosen := by
  have digitsKnown : digitsName ∈ Record.names defaults := by decide
  have dialectKnown : dialectName ∈ Record.names defaults := by decide
  obtain ⟨digits, digitsFound, digitsSuit⟩ := exists_get?_suits suit digitsKnown
  obtain ⟨named, dialectFound, dialectSuits⟩ := exists_get?_suits suit dialectKnown
  obtain ⟨dialect, rfl⟩ := dialectSuits.ofDialect rfl
  refine ⟨⟨digits.isGiven, dialect⟩, ?_⟩
  unfold locale Locale.ofValues
  rw [digitsFound, dialectFound, Option.getD_some, Option.getD_some, Dialect.ofValue,
    Dialect.ofName?_name]
  rfl

end Accepted

/-! ### The whole validation -/

/-- Whether the validation of a record of changes is exact: it is accepted exactly if each value
suits the setting of its name, and refused as settings and in no other way otherwise; if it is
accepted, then the calendar system can be read, and the locale can be put in force. -/
structure ValidatesExactly (fields : Record) : Prop where
  accepts_iff :
    (∃ settings, accept (.value (.record fields)) = .ok settings) ↔
      ∀ field ∈ fields, Suits field.1 field.2
  refuses : ∀ fault, accept (.value (.record fields)) = .error fault → fault.category = .setting
  hasSystem :
    ∀ settings, accept (.value (.record fields)) = .ok settings →
      ∃ chosen, settings.system = .ok chosen
  configures :
    ∀ settings, accept (.value (.record fields)) = .ok settings →
      ∃ chosen, settings.locale = .ok chosen ∧
        ∀ session : Session,
          session.perform (.configureLocale (.value (.record fields))) =
            (.ok (.locale chosen), session.withLocale chosen)

/-- Where a record is accepted exactly with values that suit, all else about accepted ones
follows. -/
theorem ValidatesExactly.of_accepts
    {fields : Record}
    (accepts :
      ∀ settings, accept (.value (.record fields)) = .ok settings ↔
        settings = ⟨fields⟩ ∧ ∀ field ∈ fields, Suits field.1 field.2)
    (refuses :
      ∀ fault, accept (.value (.record fields)) = .error fault → fault.category = .setting) :
    ValidatesExactly fields where
  accepts_iff := by simp [accepts]
  refuses := refuses
  hasSystem := by
    intro settings accepted
    obtain ⟨rfl, suit⟩ := (accepts settings).1 accepted
    exact exists_system suit
  configures := by
    intro settings accepted
    obtain ⟨rfl, suit⟩ := (accepts settings).1 accepted
    obtain ⟨chosen, isChosen⟩ := exists_locale suit
    refine ⟨chosen, isChosen, fun session => ?_⟩
    have resolved :
        session.localeOf (.value (.record fields)) = .ok chosen := by
      show (accept (.value (.record fields)) >>= locale) = .ok chosen
      rw [accepted]
      exact isChosen
    rw [Session.perform, resolved, Session.chooseLocale]

section Exactness

variable
  {fields : Record}
  (distinct : (Record.names fields).Nodup)

include distinct

/-- An exact validation meets no name that no value can be put under. -/
theorem ValidatesExactly.free
    (exact : ValidatesExactly fields) :
    ∀ name ∈ fixedMembers, name ∉ Record.names fields := by
  intro name isFixed member
  obtain ⟨fault, refused, other⟩ := ofRecord_of_mem_fixedMembers isFixed member
  refine other (exact.refuses fault ?_)
  rw [accept_record distinct, refused]
  rfl

variable
  (free : ∀ name ∈ fixedMembers, name ∉ Record.names fields)
  (noMembers : membersMember ∉ Record.names fields)

include free noMembers

/-- Where all changes are checked, validation is exact. -/
theorem validatesExactly_of_get?_eq_none
    (noRecord : Record.get? fields changesMember = none) :
    ValidatesExactly fields := by
  have isRecord := changes_of_get?_eq_none noRecord
  refine .of_accepts (fun settings => ?_) (fun fault refused => ?_)
  · rw [accept_eq_ok_iff distinct free noMembers, check_eq_ok_iff]
    simp [isRecord]
  · have faulty := (accept_eq_error_iff distinct free noMembers).1 refused
    exact (refused_of_changes isRecord faulty).1

/-- Where a record is checked in place of the changes, validation is exact if that record is
refused: the changes are too, since the name that it stands under is no setting. -/
theorem validatesExactly_of_get?_eq_some
    {examined : Record}
    (found : Record.get? fields changesMember = some (.record examined))
    (isRefused : ∃ field ∈ examined, ¬ Suits field.1 field.2) :
    ValidatesExactly fields := by
  obtain ⟨field, member, unsuited⟩ := isRefused
  have isRecord := changes_of_get?_eq_some found
  refine .of_accepts (fun settings => ?_) (fun fault refused => ?_)
  · rw [accept_eq_ok_iff distinct free noMembers, check_eq_ok_iff]
    refine and_congr_right fun _ => iff_of_false ?_ (not_suit_of_get? found)
    rintro ⟨other, isOther, suit⟩
    cases isRecord.symm.trans isOther
    exact unsuited (suit field member)
  · have faulty := (accept_eq_error_iff distinct free noMembers).1 refused
    exact (refused_of_changes isRecord faulty).1

/-- An exact validation refuses what is checked in place of the changes. -/
theorem ValidatesExactly.hidden_refused
    {value : Value}
    (exact : ValidatesExactly fields)
    (found : Record.get? fields changesMember = some value) :
    ∃ examined, value = .record examined ∧ ∃ field ∈ examined, ¬ Suits field.1 field.2 := by
  have changed := changes_of_get?_eq_some found
  cases checked : check ⟨fields⟩ with
  | ok _ =>
    have accepted := (accept_eq_ok_iff distinct free noMembers).2 ⟨rfl, checked⟩
    exact absurd (exact.accepts_iff.1 ⟨_, accepted⟩) (not_suit_of_get? found)
  | error fault =>
    have refused := (accept_eq_error_iff distinct free noMembers).2 checked
    have asSettings := exact.refuses fault refused
    by_cases isRecord : ∃ examined, value = .record examined
    · obtain ⟨examined, rfl⟩ := isRecord
      exact ⟨examined, rfl, (refused_of_changes changed checked).2⟩
    · refine absurd asSettings (category_of_changes_ne_record (fun examined same => ?_) checked)
      exact isRecord ⟨examined, changed.symm.trans same⟩

end Exactness

/-- Validation is exact precisely if no value stands under a name that settings keep for the calendar
system or for what every object has, and if, where a value stands under the name of the record of
changes, it is a record that is itself refused for one of its values.  Records that replace the
record of all members are left out: nothing of what settings know of themselves is left then. -/
theorem validatesExactly_iff
    {fields : Record}
    (distinct : (Record.names fields).Nodup)
    (noMembers : membersMember ∉ Record.names fields) :
    ValidatesExactly fields ↔
      (∀ name ∈ fixedMembers, name ∉ Record.names fields) ∧
        ∀ value, Record.get? fields changesMember = some value →
          ∃ examined, value = .record examined ∧ ∃ field ∈ examined, ¬ Suits field.1 field.2 := by
  constructor
  · intro exact
    have free := exact.free distinct
    exact ⟨free, fun value found => exact.hidden_refused distinct free noMembers found⟩
  · rintro ⟨free, refused⟩
    cases found : Record.get? fields changesMember with
    | none => exact validatesExactly_of_get?_eq_none distinct free noMembers found
    | some value =>
      obtain ⟨examined, rfl, unsuited⟩ := refused value found
      exact validatesExactly_of_get?_eq_some distinct free noMembers found unsuited

/-- Three changes that suit their settings: a spelling of the calendar system with blanks and a
capital letter, digits turned on, and a dialect. -/
theorem validatesExactly_iff_jalaliEnglish :
    let fields : Record :=
      [(calendarName, .text " Jalali ".toList), (digitsName, .bool true),
        (dialectName, .text "english".toList)]
    (Record.names fields).Nodup ∧ membersMember ∉ Record.names fields ∧ ValidatesExactly fields := by
  refine ⟨by decide, by decide, (validatesExactly_iff (by decide) (by decide)).2 ⟨by decide, ?_⟩⟩
  intro value found
  cases found

/-- The name of the calendar system is no setting, but a value under it is not refused as one. -/
theorem not_validatesExactly_systemMember :
    (Record.names [(systemMember, .text "solar".toList)]).Nodup ∧
      accept (.value (.record [(systemMember, .text "solar".toList)])) = .error .reservedName ∧
        ¬ ValidatesExactly [(systemMember, .text "solar".toList)] := by
  have refused :
      accept (.value (.record [(systemMember, .text "solar".toList)])) = .error .reservedName := rfl
  refine ⟨by decide, refused, fun exact => ?_⟩
  have asSettings := exact.refuses _ refused
  cases asSettings

end Settings

end Daybook
