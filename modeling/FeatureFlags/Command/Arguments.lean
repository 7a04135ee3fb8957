import FeatureFlags.Text.CodePoint

/-!
# Command/Arguments — options and operands

An argument that opens with a hyphen and is longer is an option; all others are operands.  An option
takes its value from behind an equals sign or from the next argument, whatever that is.  Behind a
double hyphen there are operands only.
-/

namespace FeatureFlags

/-- **Arguments told apart**: the values of options in the order given, whether help is asked for,
and the operands. -/
structure Arguments where
  values : List (Text × Text)
  helps : Bool
  operands : List Text

namespace Arguments

/-- One more value. -/
def withValue (name value : Text) (a : Arguments) : Arguments :=
  { a with values := (name, value) :: a.values }

/-- One more operand. -/
def withOperand (operand : Text) (a : Arguments) : Arguments :=
  { a with operands := operand :: a.operands }

/-- Operands only. -/
def ofOperands (operands : List Text) : Arguments := ⟨[], false, operands⟩

/-- Whether an argument is an option. -/
def isOption (argument : Text) : Bool :=
  argument.head? = some (.scalar '-') && 1 < argument.length

/-- **Telling arguments apart.**  `names` are the options that take a value; besides them there is
one that asks for help.  If operands end the options, everything from the first one on is an
operand.  There is no answer if an option is unknown, lacks its value or has one it does not
take. -/
def scan (names : List Text) (operandsEnd : Bool) : List Text → Option Arguments
  | [] => some (ofOperands [])
  | argument :: rest =>
    if argument = "--" then some (ofOperands rest)
    else if isOption argument then
      match argument.cut? (.scalar '=') with
      | some (name, value) =>
        if names.contains name then (scan names operandsEnd rest).map (withValue name value)
        else none
      | none =>
        if argument = "--help" then
          (scan names operandsEnd rest).map fun a => { a with helps := true }
        else if names.contains argument then
          match rest with
          | [] => none
          | value :: rest => (scan names operandsEnd rest).map (withValue argument value)
        else none
    else if operandsEnd then some (ofOperands (argument :: rest))
    else (scan names operandsEnd rest).map (withOperand argument)

/-- The value of an option; of several the last one counts. -/
def value? (a : Arguments) (name : Text) : Option Text := a.values.reverse.lookup name

/-- Whether the first of two options is given, and not only behind the other one. -/
def precedes (a : Arguments) (first second : Text) : Bool :=
  (a.values.map Prod.fst).find? (fun name => name = first || name = second) = some first

end Arguments

end FeatureFlags
