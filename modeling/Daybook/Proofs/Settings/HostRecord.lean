import Daybook.Proofs.Settings.Validation

/-!
Contract: what the settings of a host record depend on.

Owns:
- what is reported about a value that does not suit its setting;
- the values that a host record gives, null ones left out, and the changes made of them;
- the settings of a host record, and the first value that is refused.

Does not own: which values suit a setting, or settings that were changed in other ways.
-/

namespace Daybook.Settings

/-! ### Reports -/

/-- The type of the values of a setting, as messages name it. -/
def settingTypeName (name : Text) : Text :=
  if IsSwitch name then (Value.bool true).typeName else (Value.text []).typeName

/-- What is reported about a value that does not suit the setting of a name: its type is another
one, or it is a text that is none of the choices. -/
inductive Refusal : Text → Value → Fault → Prop where
  | type
    {name : Text}
    {value : Value}
    (wrong : value.typeName ≠ settingTypeName name) :
    Refusal name value (.settingType name (settingTypeName name) value.typeName)
  | system
    {given : Text}
    (unknown : CalendarSystem.ofValue? (.text given) = none) :
    Refusal calendarName (.text given) (.settingSystem calendarName given)
  | dialect
    {given : Text}
    (unknown : Dialect.ofName? given = none) :
    Refusal dialectName (.text given) (.settingDialect dialectName given)

/-- A report is about the setting, and its message names it between quotation marks. -/
theorem Refusal.message
    {name : Text}
    {value : Value}
    {fault : Fault}
    (refusal : Refusal name value fault) :
    fault.category = .setting ∧ (∀ other, fault ≠ .unknownSetting other) ∧
      ∃ text, fault.message = some text ∧ ('"' :: name ++ ['"']) <:+: text := by
  cases refusal with
  | type wrong =>
    refine ⟨rfl, fun other => nofun, _, rfl, [], ?_, ?_⟩
    · exact " must be \"".toList ++ settingTypeName name ++ "\", not \"".toList ++
        value.typeName ++ "\".".toList
    · simp
  | @system given unknown =>
    refine ⟨rfl, fun other => nofun, _, rfl, '"' :: given ++ "\" is not a valid value for ".toList,
      ", it should be \"solar\" or \"gregorian\"".toList, ?_⟩
    simp
  | @dialect given unknown =>
    refine ⟨rfl, fun other => nofun, _, rfl, '"' :: given ++ "\" is not a valid value for ".toList,
      ", it should be one of: ".toList ++ Dialect.choices, ?_⟩
    simp

/-- The kind of a setting has the type that messages name for the setting. -/
theorem typeName_kindOf (name : Text) : (kindOf name).typeName = settingTypeName name := by
  unfold kindOf
  by_cases isCalendar : name = calendarName
  · subst isCalendar
    rfl
  by_cases isDialect : name = dialectName
  · subst isDialect
    rfl
  rw [if_neg isCalendar, if_neg isDialect, settingTypeName]
  split <;> rfl

theorem eq_calendarName_of_kindOf
    {name : Text}
    (isSystem : kindOf name = .system) :
    name = calendarName := by
  unfold kindOf at isSystem
  split at isSystem
  · assumption
  · repeat' split at isSystem
    all_goals cases isSystem

theorem eq_dialectName_of_kindOf
    {name : Text}
    (isDialect : kindOf name = .dialect) :
    name = dialectName := by
  unfold kindOf at isDialect
  split at isDialect
  · cases isDialect
  split at isDialect
  · assumption
  · split at isDialect
    all_goals cases isDialect

theorem exists_bool_of_typeName
    {value : Value}
    (same : value.typeName = (Value.bool true).typeName) :
    ∃ on, value = .bool on := by
  cases value with
  | bool on => exact ⟨on, rfl⟩
  | null | int | real | text | list | record =>
    exact absurd same (by dsimp only [Value.typeName]; decide)

theorem exists_text_of_typeName
    {value : Value}
    (same : value.typeName = (Value.text []).typeName) :
    ∃ given, value = .text given := by
  cases value with
  | text given => exact ⟨given, rfl⟩
  | null | bool | int | real | list | record =>
    exact absurd same (by dsimp only [Value.typeName]; decide)

/-- The type of a value is looked at before anything else. -/
theorem Kind.fault?_of_typeName_ne
    {kind : Kind}
    {name : Text}
    {value : Value}
    (wrong : value.typeName ≠ kind.typeName) :
    kind.fault? name value = some (.settingType name kind.typeName value.typeName) := by
  cases value with
  | bool on =>
    cases kind with
    | switch => exact absurd rfl wrong
    | text | system | dialect => rfl
  | text given =>
    cases kind with
    | switch => rfl
    | text | system | dialect => exact absurd rfl wrong
  | null | int | real | list | record => rfl

/-- The fault that is found in a value for a setting is the report about it. -/
theorem refusal_of_fault?
    {name : Text}
    (known : name ∈ Record.names defaults)
    {value : Value}
    {fault : Fault}
    (found : fault? name value = some fault) :
    Refusal name value fault := by
  unfold fault? at found
  rw [kind?_of_mem_defaults name known] at found
  dsimp only at found
  by_cases sameType : value.typeName = (kindOf name).typeName
  · generalize kindFound : kindOf name = kind at found sameType
    cases kind with
    | switch =>
      obtain ⟨on, rfl⟩ := exists_bool_of_typeName sameType
      cases found
    | text =>
      obtain ⟨given, rfl⟩ := exists_text_of_typeName sameType
      cases found
    | system =>
      obtain rfl := eq_calendarName_of_kindOf kindFound
      obtain ⟨given, rfl⟩ := exists_text_of_typeName sameType
      dsimp only [Kind.fault?] at found
      split at found
      · cases found
      · next unknown =>
        cases found
        exact .system unknown
    | dialect =>
      obtain rfl := eq_dialectName_of_kindOf kindFound
      obtain ⟨given, rfl⟩ := exists_text_of_typeName sameType
      dsimp only [Kind.fault?] at found
      split at found
      · cases found
      · next unknown =>
        cases found
        exact .dialect unknown
  · rw [Kind.fault?_of_typeName_ne sameType] at found
    cases found
    rw [typeName_kindOf] at sameType ⊢
    exact .type sameType

/-! ### The changes that a host record asks for -/

/-- The value that a host record gives under a name; null counts as none. -/
def hostValue? (record : Record) (hostName : Text) : Option Value :=
  match Record.get? record hostName with
  | some .null => none
  | found => found

/-- The changes are the values that are given, in the order in which they are taken over. -/
theorem hostChanges_eq (record : Record) :
    hostChanges record =
      hostNames.filterMap fun field =>
        (hostValue? record field.1).map fun value => (field.2, value) := by
  unfold hostChanges hostValue?
  refine List.filterMap_congr fun ⟨hostName, name⟩ _ => ?_
  dsimp only
  cases Record.get? record hostName with
  | none => rfl
  | some value => cases value <;> rfl

theorem mem_hostChanges_iff
    {record : Record}
    {name : Text}
    {value : Value} :
    (name, value) ∈ hostChanges record ↔
      ∃ hostName, (hostName, name) ∈ hostNames ∧ hostValue? record hostName = some value := by
  rw [hostChanges_eq, List.mem_filterMap]
  simp

theorem names_hostChanges (record : Record) :
    (Record.names (hostChanges record)).Sublist (hostNames.map Prod.snd) := by
  have general (fields : List (Text × Text)) :
      (Record.names (fields.filterMap fun field =>
        (hostValue? record field.1).map fun value => (field.2, value))).Sublist
          (fields.map Prod.snd) := by
    induction fields with
    | nil => exact .slnil
    | cons field rest inductionHypothesis =>
      rw [List.filterMap_cons, List.map_cons]
      cases hostValue? record field.1 with
      | none => exact inductionHypothesis.cons _
      | some value => exact inductionHypothesis.cons_cons _
  rw [hostChanges_eq]
  exact general hostNames

theorem nodup_settings_hostNames : (hostNames.map Prod.snd).Nodup := by
  decide

theorem known_of_mem_hostNames : ∀ field ∈ hostNames, field.2 ∈ Record.names defaults := by
  decide

section Changes

variable (record : Record)

theorem nodup_hostChanges : (Record.names (hostChanges record)).Nodup :=
  nodup_settings_hostNames.sublist (names_hostChanges record)

theorem known_of_mem_hostChanges
    {name : Text}
    (member : name ∈ Record.names (hostChanges record)) :
    name ∈ Record.names defaults := by
  obtain ⟨field, isField, rfl⟩ := List.mem_map.1 ((names_hostChanges record).subset member)
  exact known_of_mem_hostNames field isField

/-- A setting has the value that the record gives under its host name, if it gives one. -/
theorem get?_hostChanges
    {hostName name : Text}
    (isHostName : (hostName, name) ∈ hostNames) :
    Record.get? (hostChanges record) name = hostValue? record hostName := by
  refine Option.ext fun value => ?_
  rw [Record.get?_eq_some_iff_mem (nodup_hostChanges record), mem_hostChanges_iff]
  constructor
  · rintro ⟨other, isOther, found⟩
    cases List.inj_on_of_nodup_map nodup_settings_hostNames isOther isHostName rfl
    exact found
  · exact fun found => ⟨hostName, isHostName, found⟩

/-- What counts as the changes is what the record asks for. -/
theorem changes_hostChanges : changes ⟨hostChanges record⟩ = .record (hostChanges record) :=
  changes_of_known fun _ => known_of_mem_hostChanges record

/-- The changes are searched in the order of the host names. -/
theorem findSome?_hostChanges
    {α : Type}
    (search : Text × Value → Option α) :
    (hostChanges record).findSome? search =
      hostNames.findSome? fun field =>
        (hostValue? record field.1).bind fun value => search (field.2, value) := by
  rw [← List.head?_filterMap, ← List.head?_filterMap, hostChanges_eq, List.filterMap_filterMap]
  refine congrArg List.head? (List.filterMap_congr fun field _ => ?_)
  cases hostValue? record field.1 <;> rfl

/-! ### The settings of a host record -/

/-- A host record is taken over as changes to the standard settings, which are checked. -/
theorem ofHostRecord_eq :
    ofHostRecord record = (check ⟨hostChanges record⟩).map fun _ => ⟨hostChanges record⟩ := by
  have asAccepted : ofHostRecord record = accept (.value (.record (hostChanges record))) := rfl
  rw [asAccepted]
  exact accept_of_known (nodup_hostChanges record) fun _ => known_of_mem_hostChanges record

theorem ofHostRecord_eq_ok_iff
    {settings : Settings} :
    ofHostRecord record = .ok settings ↔
      settings = ⟨hostChanges record⟩ ∧
        ∀ field ∈ hostNames, ∀ value, hostValue? record field.1 = some value →
          Suits field.2 value := by
  have suit :
      check ⟨hostChanges record⟩ = .ok () ↔
        ∀ field ∈ hostNames, ∀ value, hostValue? record field.1 = some value →
          Suits field.2 value := by
    rw [check_eq_ok_iff]
    constructor
    · rintro ⟨examined, isExamined, suit⟩ field isHostName value given
      cases (changes_hostChanges record).symm.trans isExamined
      exact suit _ (mem_hostChanges_iff.2 ⟨field.1, isHostName, given⟩)
    · intro suit
      refine ⟨hostChanges record, changes_hostChanges record, fun ⟨name, value⟩ member => ?_⟩
      obtain ⟨hostName, isHostName, given⟩ := mem_hostChanges_iff.1 member
      exact suit _ isHostName value given
  rw [ofHostRecord_eq, Attempt.map_eq_ok_iff, ← suit]
  constructor
  · rintro ⟨⟨⟩, checked, rfl⟩
    exact ⟨rfl, checked⟩
  · rintro ⟨rfl, checked⟩
    exact ⟨(), checked, rfl⟩

/-- A host record is refused for the first value, in the order of the host names, that does not suit
its setting. -/
theorem exists_refusal_of_ofHostRecord
    {fault : Fault}
    (refused : ofHostRecord record = .error fault) :
    ∃ before hostName name after value,
      hostNames = before ++ (hostName, name) :: after ∧
        hostValue? record hostName = some value ∧ ¬ Suits name value ∧ Refusal name value fault ∧
        ∀ earlier ∈ before, ∀ other, hostValue? record earlier.1 = some other →
          Suits earlier.2 other := by
  have unchecked : check ⟨hostChanges record⟩ = .error fault := by
    rw [ofHostRecord_eq] at refused
    cases checked : check ⟨hostChanges record⟩ with
    | ok _ =>
      rw [checked] at refused
      cases refused
    | error own =>
      rw [checked] at refused
      cases refused
      rfl
  have searched :
      (hostChanges record).findSome? (fun field => fault? field.1 field.2) = some fault := by
    unfold check at unchecked
    rw [changesRecord_eq_ok_iff.2 (changes_hostChanges record)] at unchecked
    simp only [bind, Except.bind] at unchecked
    split at unchecked
    · next found =>
      cases unchecked
      exact found
    · cases unchecked
  rw [findSome?_hostChanges, List.findSome?_eq_some_iff] at searched
  obtain ⟨before, ⟨hostName, name⟩, after, whole, found, earlier⟩ := searched
  obtain ⟨value, given, faulty⟩ := Option.bind_eq_some_iff.1 found
  have isHostName : (hostName, name) ∈ hostNames := by simp [whole]
  refine ⟨before, hostName, name, after, value, whole, given, ?_,
    refusal_of_fault? (known_of_mem_hostNames _ isHostName) faulty, ?_⟩
  · rw [← fault?_eq_none_iff, faulty]
    exact Option.some_ne_none fault
  · intro field isEarlier other isOther
    have faultless := earlier field isEarlier
    rw [isOther, Option.bind_some] at faultless
    exact fault?_eq_none_iff.1 faultless

/-- A setting of the host record has the value that the record gives, or its default; all others
have their defaults. -/
theorem get?_of_hostChanges
    (name : Text) :
    (∀ hostName, (hostName, name) ∈ hostNames →
      get? ⟨hostChanges record⟩ name =
        (hostValue? record hostName).or (Record.get? defaults name)) ∧
      (name ∉ hostNames.map Prod.snd →
        get? ⟨hostChanges record⟩ name = Record.get? defaults name) := by
  have merged := get?_of_nodup (nodup_hostChanges record) name
  constructor
  · intro hostName isHostName
    rw [merged, get?_hostChanges record isHostName]
  · intro notHost
    have absent : Record.get? (hostChanges record) name = none :=
      Record.get?_eq_none_iff.2 fun member =>
        notHost ((names_hostChanges record).subset member)
    rw [merged, absent, Option.none_or]

/-- The settings of a host record depend on the values alone that it gives under the host names: no
other name, no null and no order has any effect.  Settings are made exactly if each such value suits
its setting; each has the value that is given for it or its default, and the changes stand in the
order of the host names.  Otherwise the first value in that order that does not suit is reported,
under the name of its setting. -/
theorem ofHostRecord_reads_hostNames :
    (∀ other : Record,
      (∀ field ∈ hostNames, hostValue? record field.1 = hostValue? other field.1) →
        ofHostRecord record = ofHostRecord other) ∧
    ((∃ settings, ofHostRecord record = .ok settings) ↔
      ∀ field ∈ hostNames, ∀ value, hostValue? record field.1 = some value →
        Suits field.2 value) ∧
    (∀ settings, ofHostRecord record = .ok settings →
      settings.changes =
          .record (hostNames.filterMap fun field =>
            (hostValue? record field.1).map fun value => (field.2, value)) ∧
        (∀ field ∈ hostNames,
          settings.get? field.2 =
            (hostValue? record field.1).or (Record.get? defaults field.2)) ∧
        ∀ name, name ∉ hostNames.map Prod.snd → settings.get? name = Record.get? defaults name) ∧
    ∀ fault, ofHostRecord record = .error fault →
      (∃ before hostName name after value,
        hostNames = before ++ (hostName, name) :: after ∧
          hostValue? record hostName = some value ∧ ¬ Suits name value ∧
          Refusal name value fault ∧
          (∀ earlier ∈ before, ∀ other, hostValue? record earlier.1 = some other →
            Suits earlier.2 other) ∧
          ∃ text, fault.message = some text ∧ ('"' :: name ++ ['"']) <:+: text) ∧
        fault.category = .setting ∧ ∀ other, fault ≠ .unknownSetting other := by
  refine ⟨?_, ?_, ?_, ?_⟩
  · intro other same
    have sameChanges : hostChanges record = hostChanges other := by
      rw [hostChanges_eq, hostChanges_eq]
      exact List.filterMap_congr fun field isHostName => by rw [same field isHostName]
    rw [ofHostRecord_eq, ofHostRecord_eq, sameChanges]
  · constructor
    · rintro ⟨settings, made⟩
      exact ((ofHostRecord_eq_ok_iff record).1 made).2
    · exact fun suit => ⟨_, (ofHostRecord_eq_ok_iff record).2 ⟨rfl, suit⟩⟩
  · intro settings made
    obtain ⟨rfl, -⟩ := (ofHostRecord_eq_ok_iff record).1 made
    refine ⟨?_, fun field isHostName => ?_, fun name notHost => ?_⟩
    · rw [changes_hostChanges, hostChanges_eq]
    · exact (get?_of_hostChanges record field.2).1 field.1 isHostName
    · exact (get?_of_hostChanges record name).2 notHost
  · intro fault refused
    obtain ⟨before, hostName, name, after, value, whole, given, unsuited, refusal, earlier⟩ :=
      exists_refusal_of_ofHostRecord record refused
    obtain ⟨isSetting, isKnown, named⟩ := refusal.message
    exact ⟨⟨before, hostName, name, after, value, whole, given, unsuited, refusal, earlier, named⟩,
      isSetting, isKnown⟩

end Changes

/-- Two records that say the same in different orders, beside a null and a name of their own: both
are refused for the calendar system, which is taken over before the pattern. -/
theorem ofHostRecord_reads_hostNames_lunar :
    let lunar : Value := .text "lunar".toList
    let record : Record :=
      [("dailyNotesFormat".toList, .int 3), ("showHolidays".toList, .bool true),
        ("dateFormat".toList, lunar)]
    let other : Record :=
      [("dateFormat".toList, lunar), ("weeklyNotesFormat".toList, .null),
        ("dailyNotesFormat".toList, .int 3)]
    (∀ field ∈ hostNames, hostValue? record field.1 = hostValue? other field.1) ∧
      ofHostRecord record = ofHostRecord other ∧
      ofHostRecord other = .error (.settingSystem calendarName "lunar".toList) ∧
      Fault.category (.settingSystem calendarName "lunar".toList) = .setting := by
  intro lunar record other
  let found : List (Option Value) := some lunar :: none :: some (.int 3) :: List.replicate 9 none
  have read : (hostNames.map fun field => hostValue? record field.1) = found := rfl
  have readOther : (hostNames.map fun field => hostValue? other field.1) = found := rfl
  have same : ∀ field ∈ hostNames, hostValue? record field.1 = hostValue? other field.1 :=
    List.map_inj_left.1 (read.trans readOther.symm)
  have refused : ofHostRecord other = .error (.settingSystem calendarName "lunar".toList) := rfl
  exact ⟨same, (ofHostRecord_reads_hostNames record).1 other same, refused,
    ((ofHostRecord_reads_hostNames other).2.2.2 _ refused).2.1⟩

end Daybook.Settings
