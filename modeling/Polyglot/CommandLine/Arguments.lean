import Polyglot.Text.Basic
import Polyglot.Entries

/-! # Arguments of a command

Arguments are options and operands. An option with a long name may have its value after an equals
sign, one with a short name right behind the name; otherwise the value is the next argument,
whatever it looks like. Short names of options without values may share one hyphen. After two
hyphens alone everything is an operand. Of several values of one option the last one counts.
-/

namespace Polyglot.CommandLine

/-- An option: its names, the first of which is the key of its value. -/
structure OptionSpec where
  names : List Text
  takesValue : Bool

/-- What a command was given. -/
structure Arguments where
  /-- Values by the keys of their options, the last value of a key first. -/
  values : List (Text × Text)
  flags : List Text
  operands : List Text

namespace Arguments

/-- No arguments. -/
def empty : Arguments := ⟨[], [], []⟩

/-- The value of an option. -/
def value? (a : Arguments) (key : Text) : Option Text := Entries.get? key a.values

/-- Holds when an option without a value was given. -/
def hasFlag (a : Arguments) (key : Text) : Bool := a.flags.contains key

end Arguments

/-- The options that one argument names: some without values, and perhaps a last one with a value,
which is attached or still to come. -/
structure Switches where
  flags : List Text
  last : Option (Text × Option Text)

/-- The hyphens of a long name. -/
def longMark : Text := "--"

/-- The hyphen of a short name. -/
def hyphen : CodePoint := '-'

/-- An argument that begins with a hyphen and is more than that. -/
def isOption : Text → Bool
  | c :: _ :: _ => c == hyphen
  | _ => false

/-- The option with a name. -/
def find? (specs : List OptionSpec) (name : Text) : Option OptionSpec :=
  specs.find? fun spec => spec.names.contains name

/-- The key of an option. -/
def OptionSpec.key (spec : OptionSpec) : Text := spec.names.headD []

/-- The options that letters behind one hyphen name; nothing when one of them is not known. -/
def shortSwitches (specs : List OptionSpec) : Text → Option Switches
  | [] => some ⟨[], none⟩
  | c :: rest => do
    let spec ← find? specs [hyphen, c]
    if spec.takesValue then
      pure ⟨[], some (spec.key, if rest.isEmpty then none else some rest)⟩
    else
      let others ← shortSwitches specs rest
      pure { others with flags := spec.key :: others.flags }

/-- The option that a long name names, perhaps with a value; nothing when it is not known or has a
value that it does not take. -/
def longSwitches (specs : List OptionSpec) (arg : Text) : Option Switches := do
  let name := arg.takeWhile (· ≠ ('=' : CodePoint))
  let attached := if name.length < arg.length then some (arg.drop (name.length + 1)) else none
  let spec ← find? specs name
  if spec.takesValue then pure ⟨[], some (spec.key, attached)⟩
  else if attached.isSome then none
  else pure ⟨[spec.key], none⟩

/-- The options that an argument names. -/
def switches (specs : List OptionSpec) (arg : Text) : Option Switches :=
  if longMark.isPrefixOf arg then longSwitches specs arg else shortSwitches specs arg.tail

/-- Adds options to arguments that come later. -/
def Arguments.withSwitches (a : Arguments) (flags : List Text) (values : List (Text × Text)) :
    Arguments :=
  { a with flags := flags ++ a.flags, values := a.values ++ values }

/-- Reads arguments; nothing when they are misused. If operands may not be mixed with options, the
first operand makes everything after it an operand. -/
def parse (specs : List OptionSpec) (mixed : Bool) : List Text → Option Arguments
  | [] => some Arguments.empty
  | arg :: rest =>
    if arg = longMark then some { Arguments.empty with operands := rest }
    else if isOption arg then
      match switches specs arg, rest with
      | none, _ => none
      | some ⟨flags, none⟩, rest => do
        return (← parse specs mixed rest).withSwitches flags []
      | some ⟨flags, some (key, some value)⟩, rest => do
        return (← parse specs mixed rest).withSwitches flags [(key, value)]
      | some ⟨_, some (_, none)⟩, [] => none
      | some ⟨flags, some (key, none)⟩, value :: rest => do
        return (← parse specs mixed rest).withSwitches flags [(key, value)]
    else if mixed then do
      let a ← parse specs mixed rest
      pure { a with operands := arg :: a.operands }
    else some { Arguments.empty with operands := arg :: rest }

end Polyglot.CommandLine
