import Daybook.CommandLine.Word

/-!
Contract: the values and the operands that the words of a command line give.

Owns:
- the two ways in which a command line is not carried out;
- taking the values of switches and the operands from a list of words.

Does not own: the meaning of a value.
-/

namespace Daybook.CommandLine

/-- Why a command line is not carried out. -/
inductive Ending where
  | misuse
  | help
  deriving DecidableEq, Repr

def helpSwitch : Switch :=
  ⟨["-h".toList, "--help".toList], false⟩

/-- The value in a text of the command line.  The separator is never a value: where it stands for one
it leaves nothing. -/
def heldValue (text : Text) : Option Text :=
  if text = separatorText then none else some text

/-- What a list of words gives: the switches in their order, each with its value, and the operands.
A switch that takes no value has none, and a value or an operand may have been left out. -/
structure Gathered where
  switches : List (Switch × Option Text)
  operands : List (Option Text)
  deriving DecidableEq, Repr

namespace Gathered

def withSwitch (switch : Switch) (value : Option Text) (gathered : Gathered) : Gathered :=
  { gathered with switches := (switch, value) :: gathered.switches }

def withOperand (operand : Option Text) (gathered : Gathered) : Gathered :=
  { gathered with operands := operand :: gathered.operands }

/-- What was given to a switch, each time that it was used. -/
def valuesOf (gathered : Gathered) (switch : Switch) : List (Option Text) :=
  (gathered.switches.filter fun given => given.1 == switch).map Prod.snd

/-- The operand at a place, which is counted from zero. -/
def operand (gathered : Gathered) (place : Nat) : Option Text :=
  gathered.operands.getD place none

end Gathered

/-- Takes switches and operands from words.  At most the given number of operands is taken.  The
separator has to stand next to one of them, and belongs to the one in front of it, if there is one;
the operand that it belongs to is taken as it is. -/
def gather (places : Nat) (afterOperand : Bool) : List Word → Except Ending Gathered
  | [] => .ok ⟨[], []⟩
  | .plain text :: rest =>
    match places with
    | 0 => .error .misuse
    | more + 1 => do pure ((← gather more true rest).withOperand (heldValue text))
  | .separator :: rest =>
    if afterOperand then gather places false rest
    else
      match places, rest with
      | more + 1, .plain text :: following => do
        pure ((← gather more true following).withOperand (some text))
      | _, _ => .error .misuse
  | .switch switch :: rest =>
    if switch.takesValue then
      match rest with
      | .plain value :: following => do
        pure ((← gather places false following).withSwitch switch (some value))
      | _ => .error .misuse
    else if switch = helpSwitch then .error .help
    else do pure ((← gather places false rest).withSwitch switch none)
  | .attached switch value :: rest => do
    pure ((← gather places false rest).withSwitch switch (heldValue value))
  | .unknown :: _ => .error .misuse

/-- Takes switches and exactly the given number of operands from a command line. -/
def gatherExactly (switches : List Switch) (places : Nat) (line : List Text) :
    Except Ending Gathered :=
  match classifyAll? switches line with
  | none => .error .misuse
  | some words => do
    let gathered ← gather places false words
    if gathered.operands.length = places then pure gathered else .error .misuse

end Daybook.CommandLine
