import Daybook.Settings.Basic

/-!
Contract: which settings are valid.

Owns:
- the check of a single value against the kind of its setting;
- the check of all changes, in their order;
- the settings that an operation works with, from whatever it was given;
- the settings of a host record.

Does not own: the defaults, or how a record is read from a value.
-/

namespace Daybook.Settings

def Kind.typeName : Kind → Text
  | switch => (Value.bool true).typeName
  | text | system | dialect => (Value.text []).typeName

/-- The fault of a value for a setting of the given name and kind: of the wrong type, or not among
the choices. -/
def Kind.fault? (kind : Kind) (name : Text) : Value → Option Fault
  | .bool value =>
    match kind with
    | switch => none
    | _ => some (.settingType name kind.typeName (Value.bool value).typeName)
  | .text given =>
    match kind with
    | switch => some (.settingType name kind.typeName (Value.text given).typeName)
    | text => none
    | system =>
      match CalendarSystem.ofValue? (.text given) with
      | some _ => none
      | none => some (.settingSystem name given)
    | dialect =>
      match Dialect.ofName? given with
      | some _ => none
      | none => some (.settingDialect name given)
  | value => some (.settingType name kind.typeName value.typeName)

def fault? (name : Text) (value : Value) : Option Fault :=
  match kind? name with
  | none => some (.unknownSetting name)
  | some kind => kind.fault? name value

/-- Checks all changes; the first one that is not valid decides. -/
def check (settings : Settings) : Except Fault Unit := do
  let changed ← settings.changesRecord
  match changed.findSome? fun field => fault? field.1 field.2 with
  | some fault => .error fault
  | none => .ok ()

/-- What an operation can be given for its settings. -/
inductive Given where
  | value (value : Value)
  | settings (settings : Settings)
  deriving Repr

/-- The settings that something given stands for: null for the standard ones, and a record for
changes to them. -/
def Given.resolve : Given → Except Fault Settings
  | settings found => .ok found
  | value .null => .ok standard
  | value (.record fields) => standard.replace fields []
  | value _ => .error .settingsUnreadable

/-- The settings that an operation works with, which have to be valid. -/
def accept (given : Given) : Except Fault Settings := do
  let found ← given.resolve
  found.check
  pure found

/-- The record of changes that something given stands for, where settings are made or replaced. -/
def Given.changes : Given → Except Fault Record
  | value found => Record.ofGiven found
  | settings _ => .error .settingsNotRecord

/-- Settings with further changes, first those that something given stands for. -/
def replaceGiven
    (settings : Settings)
    (given : Given)
    (single : List (Text × Value)) :
    Except Fault Settings := do
  match settings.replacementFault? single with
  | some fault => .error fault
  | none => settings.replace (← given.changes) single

/-- The changes that a host record asks for: its values under the known names, null ones left
out. -/
def hostChanges (record : Record) : Record :=
  hostNames.filterMap fun (hostName, name) =>
    match Record.get? record hostName with
    | none => none
    | some .null => none
    | some value => some (name, value)

/-- The settings of a host record. -/
def ofHostRecord (record : Record) : Except Fault Settings := do
  let found ← standard.replace (hostChanges record) []
  found.check
  pure found

end Daybook.Settings
