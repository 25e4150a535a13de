import Daybook.Settings.Names

/-!
Contract: settings as changes to the defaults.

Owns:
- the type `Settings`, and the value of every setting;
- making settings from a record, and replacing some of them;
- the names that settings keep for themselves;
- reading a record from a value of any form.

Does not own: whether the values are ones that the settings take.
-/

namespace Daybook

namespace Record

/-- A value that can be split into a pair: a list or a text by its items, a record by its names. -/
def itemsOf? : Value → Option (List Value)
  | .list items => some items
  | .text characters => some (characters.map fun c => .text [c])
  | .record fields => some (fields.map fun field => .text field.1)
  | _ => none

/-- Reads the pair at a place of a list that stands for a record. -/
def pairAt (place : Nat) (item : Value) : Except Fault (Value × Value) :=
  match itemsOf? item with
  | none => .error (.notSequence place)
  | some [.list items, _] => .error (.unusableName (Value.list items).typeName)
  | some [.record fields, _] => .error (.unusableName (Value.record fields).typeName)
  | some [name, value] => .ok (name, value)
  | some items => .error (.notPair place items.length)

/-- Reads all pairs of a list that stands for a record, from the given place on. -/
def pairsFrom (place : Nat) : List Value → Except Fault (List (Value × Value))
  | [] => .ok []
  | item :: rest => do
    let pair ← pairAt place item
    let following ← pairsFrom (place + 1) rest
    pure (pair :: following)

/-- Takes the names of settings from pairs; each has to be a text. -/
def named : List (Value × Value) → Except Fault (List (Text × Value))
  | [] => .ok []
  | (.text name, value) :: rest => do pure ((name, value) :: (← named rest))
  | (name, _) :: _ => .error (.settingNameType name.typeName)

/-- The record in a value: a record itself, or a list of pairs. -/
def ofValue : Value → Except Fault Record
  | .record fields => .ok fields
  | .list items => do pure (ofPairs (← named (← pairsFrom 0 items)))
  | .text characters => do
    pure (ofPairs (← named (← pairsFrom 0 (characters.map fun c => .text [c]))))
  | value => .error (.notIterable value.typeName)

/-- The record in a value, where a value that is not given stands for the empty record. -/
def ofGiven (value : Value) : Except Fault Record :=
  if value.isGiven then ofValue value else .ok []

end Record

/-- Settings, given by the values that were changed from the defaults, in the order in which each
was changed first. -/
structure Settings where
  overrides : Record
  deriving Repr

namespace Settings

def standard : Settings := ⟨[]⟩

/-- The name that settings keep for their calendar system. -/
def systemMember : Text := "calendar_kind".toList

/-- The name that settings keep for the record of their changes. -/
def changesMember : Text := "_mod_settings".toList

/-- The name that settings keep for the record of all their values. -/
def valuesMember : Text := "_values".toList

/-- The name that settings keep for the replacement of some of them. -/
def replaceMember : Text := "replace".toList

/-- The name that settings keep for the listing of all of them. -/
def listMember : Text := "as_dict".toList

/-- Whether a name and value can be put among the members of settings.  The calendar system is
always computed, and no value is a class.  A record in place of the record of all members is not
modelled and counts as refused: settings would be left with what it and later names give. -/
def memberFault? (name : Text) (value : Value) : Option Fault :=
  if name = systemMember ∨ name = "__weakref__".toList then some .reservedName
  else if name = "__class__".toList then some (.classReplaced value.typeName)
  else if name = "__dict__".toList then
    match value with
    | .record _ => some .reservedName
    | _ => some (.membersReplaced value.typeName)
  else none

/-- Settings that differ from the defaults in the fields of a record.  Any name is taken that
settings do not keep for themselves. -/
def ofRecord (overrides : Record) : Except Fault Settings :=
  match overrides.findSome? fun field => memberFault? field.1 field.2 with
  | some fault => .error fault
  | none => .ok ⟨overrides⟩

/-- All settings with their values: the defaults first, in their order, then other names. -/
def values (settings : Settings) : Record :=
  Record.merge defaults settings.overrides

def get? (settings : Settings) (name : Text) : Option Value :=
  Record.get? settings.values name

/-- What counts as the changes: the record of them, unless a member of that name hides it. -/
def changes (settings : Settings) : Value :=
  (Record.get? settings.overrides changesMember).getD (.record settings.overrides)

/-- The record of all values, unless a member hides it or its listing. -/
def listing (settings : Settings) : Except Fault Record :=
  match Record.get? settings.overrides listMember with
  | some value => .error (.operationReplaced value.typeName)
  | none =>
    match Record.get? settings.overrides valuesMember with
    | some value => Record.ofValue value
    | none => .ok settings.values

/-- The record of the changes, where it is one. -/
def changesRecord (settings : Settings) : Except Fault Record :=
  match settings.changes with
  | .record fields => .ok fields
  | _ => .error .reservedName

/-- The text of settings in a message, unless a number in it has too many digits. -/
def shown (settings : Settings) : Except Fault Text := do
  Fault.writing settings.changes.numbers
  pure ("Settings(".toList ++ settings.changes.shown ++ [')'])

/-- The names that a replacement keeps for itself, so that no single change can have them. -/
def replacementNames : List Text :=
  ["self".toList, "mod_settings".toList]

/-- Why some settings cannot be replaced at all: a member hides the operation, or a single change
has a name that the operation keeps for itself. -/
def replacementFault? (settings : Settings) (single : List (Text × Value)) : Option Fault :=
  match Record.get? settings.overrides replaceMember with
  | some value => some (.operationReplaced value.typeName)
  | none =>
    (single.find? fun field => replacementNames.contains field.1).map fun field =>
      .replacementName field.1

/-- Settings with further changes, those of a record first and then single ones. -/
def replace
    (settings : Settings)
    (newer : Record)
    (single : List (Text × Value)) :
    Except Fault Settings := do
  match settings.replacementFault? single with
  | some fault => .error fault
  | none =>
    let current ← Record.ofValue settings.changes
    ofRecord (Record.merge (Record.merge current newer) single)

/-- Whether a setting is given as one that is on. -/
def isOn (settings : Settings) (name : Text) : Bool :=
  ((settings.get? name).getD .null).isGiven

/-- The folder of the notes of a period, which has to be a text. -/
def folder (settings : Settings) (period : Period) : Except Fault Text :=
  match settings.get? (folderName period) with
  | some (.text text) => .ok text
  | _ => .error .textAbsent

/-- The pattern of the notes of a period, which has to be a text unless it is not given at all. -/
def pattern (settings : Settings) (period : Period) : Except Fault (Option Text) :=
  match settings.get? (patternName period) with
  | some (.text text) => .ok (some text)
  | other => if (other.getD .null).isGiven then .error .textAbsent else .ok none

/-- Whether notes are kept for a period; quarterly ones can be turned off. -/
def isEnabled (settings : Settings) (period : Period) : Bool :=
  period != .quarterly || settings.isOn quarterlyName

/-- The calendar system of the notes. -/
def system (settings : Settings) : Except Fault CalendarSystem :=
  let given := (settings.get? calendarName).getD .null
  match CalendarSystem.ofValue? given with
  | some found => .ok found
  | none => Fault.raise (.unknownSystem given)

end Settings

end Daybook
