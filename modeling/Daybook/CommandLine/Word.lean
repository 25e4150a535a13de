import Daybook.Text.Digit

/-!
Contract: the words of a command line and the switches among them.

Owns:
- switches with their names, and whether they take a value;
- finding a switch by its name, by the unambiguous beginning of a long name, or in a cluster of
  short ones;
- which words are switches at all.

Does not own: which switches a command has, or what their values mean.
-/

namespace Daybook.CommandLine

/-- A switch of a command line; all its names stand for it. -/
structure Switch where
  names : List Text
  takesValue : Bool
  deriving DecidableEq, Repr

/-- What a word of a command line is. -/
inductive Word where
  | plain (text : Text)
  /-- The word after which there are no switches any more. -/
  | separator
  | switch (switch : Switch)
  | attached (switch : Switch) (value : Text)
  /-- A word that has the form of a switch but cannot be read as one. -/
  | unknown
  deriving DecidableEq, Repr

/-- The word after which there are no switches any more. -/
def separatorText : Text := ['-', '-']

/-- Whether a text has the form of a negative number: digits with at most one point, which a digit
follows, after a minus sign.  One line end may come after them. -/
def isNegativeNumber (text : Text) : Bool :=
  match text with
  | '-' :: rest =>
    let line := if rest.getLast? = some '\n' then rest.dropLast else rest
    match line.dropWhile Text.isDigit with
    | [] => !line.isEmpty
    | '.' :: fraction => !fraction.isEmpty && fraction.all Text.isDigit
    | _ => false
  | _ => false

/-- The switch that has exactly the given name. -/
def named? (switches : List Switch) (name : Text) : Option Switch :=
  switches.find? fun switch => switch.names.contains name

/-- Reads what is attached to a switch.  The characters after a short switch that takes no value are
short switches themselves. -/
def attach? (switches : List Switch) (switch : Switch) (isShort : Bool) (value : Text) :
    Option (List Word) :=
  if switch.takesValue then some [.attached switch value]
  else
    match value with
    | [] => none
    | c :: rest =>
      if isShort then
        match named? switches ['-', c] with
        | none => none
        | some next =>
          if rest = [] then some [.switch switch, .switch next]
          else (attach? switches next true rest).map (Word.switch switch :: ·)
      else none

/-- A possible reading of a word: a switch, whether its short name was used, and what is attached to
it. -/
structure Reading where
  switch : Switch
  isShort : Bool
  value : Option Text
  deriving DecidableEq, Repr

/-- Splits a text at its first equals sign, if it has one. -/
def splitAtEquals (text : Text) : Text × Option Text :=
  match text.dropWhile (· != '=') with
  | _ :: value => (text.takeWhile (· != '='), some value)
  | [] => (text, none)

/-- Whether a name is a short one: a single character after one minus sign. -/
def isShortName (name : Text) : Bool :=
  name.length == 2 && name[1]? != some '-'

/-- The readings of a word by one name of a switch: a long name can be given by any beginning of it,
and a short name by a word that goes on after it. -/
def readingsByName (word : Text) (switch : Switch) (name : Text) : List Reading :=
  if separatorText.isPrefixOf word then
    let (start, value) := splitAtEquals word
    if start.isPrefixOf name then [⟨switch, false, value⟩] else []
  else if name = word.take 2 then [⟨switch, true, some (word.drop 2)⟩]
  else if word.isPrefixOf name then [⟨switch, false, none⟩]
  else []

/-- All readings of a word that is not exactly the name of a switch. -/
def readings (switches : List Switch) (word : Text) : List Reading :=
  switches.flatMap fun switch => switch.names.flatMap (readingsByName word switch)

def Reading.words (switches : List Switch) (reading : Reading) : List Word :=
  match reading.value with
  | none => [.switch reading.switch]
  | some value => (attach? switches reading.switch reading.isShort value).getD [.unknown]

/-- Reads a word that begins with a minus sign and is longer than that, and is not the exact name of
a switch; there is no answer if several switches could be meant. -/
def classifyOther? (switches : List Switch) (word : Text) : Option (List Word) :=
  let (name, value) := splitAtEquals word
  match named? switches name, value with
  | some switch, some _ => some (Reading.words switches ⟨switch, isShortName name, value⟩)
  | _, _ =>
    match readings switches word with
    | [reading] => some (reading.words switches)
    | [] =>
      if isNegativeNumber word || word.contains ' ' then some [.plain word] else some [.unknown]
    | _ => none

/-- Reads a word; there is no answer if several switches could be meant. -/
def classify? (switches : List Switch) (word : Text) : Option (List Word) :=
  match word with
  | '-' :: _ :: _ =>
    match named? switches word with
    | some switch => some [.switch switch]
    | none => classifyOther? switches word
  | _ => some [.plain word]

/-- Reads all words of a command line; what follows the separator is never a switch. -/
def classifyAll? (switches : List Switch) : List Text → Option (List Word)
  | [] => some []
  | word :: rest =>
    if word = separatorText then some (.separator :: rest.map .plain)
    else do
      let first ← classify? switches word
      let following ← classifyAll? switches rest
      pure (first ++ following)

end Daybook.CommandLine
