import Daybook.Settings.Checking

/-!
Contract: the locale that values describe.

Owns: the choice of a locale by two values or a record of them, and the locale of valid settings.

Does not own: putting a locale in force.
-/

namespace Daybook

namespace Dialect

/-- The dialect that a value names exactly, or the fault that it names none. -/
def ofValue (given : Value) : Except Fault Dialect :=
  match given with
  | .text name =>
    match ofName? name with
    | some dialect => .ok dialect
    | none => Fault.raise (.unknownDialect given)
  | _ => Fault.raise (.unknownDialect given)

end Dialect

namespace Locale

/-- The locale with Persian digits if the first value is given, and with the dialect that the second
value names. -/
def ofValues (persianDigits dialect : Value) : Except Fault Locale := do
  pure ⟨persianDigits.isGiven, ← Dialect.ofValue dialect⟩

def digitsField : Text := "use_persian_digits".toList

def dialectField : Text := "dialect".toList

/-- The locale that a record describes; fields that it does not have are those of the standard one,
and it can have no others. -/
def ofRecord (record : Record) : Except Fault Locale :=
  match record.find? fun field => field.1 != digitsField && field.1 != dialectField with
  | some field => .error (.unknownLocaleField field.1)
  | none =>
    ofValues
      ((Record.get? record digitsField).getD (.bool standard.persianDigits))
      ((Record.get? record dialectField).getD (.text standard.dialect.name))

end Locale

namespace Settings

def locale (settings : Settings) : Except Fault Locale :=
  Locale.ofValues
    ((settings.get? digitsName).getD .null)
    ((settings.get? dialectName).getD .null)

end Settings

end Daybook
