import Polyglot.Literal.Pattern

/-! # Parameters of functions

The parameters of a function have an order: those before a slash, those without defaults before
those that have them, those after a star, and the one that takes all keys. Many of the mistakes in
that order are told apart.
-/

namespace Polyglot.Literal.Parameters

open Pattern

/-- What ends a parameter of a function: a comma, or the colon that ends all of them. -/
def parameterEnd : Pattern := alt comma (ahead (sign ":"))

/-- The name of a parameter. -/
def parameter : Pattern := inner name

/-- A parameter without a default. -/
def plainParameter : Pattern := phrase [parameter, parameterEnd]

/-- The default of a parameter. -/
def presetValue : Pattern :=
  choice [all [sign "=", Rule.expression],
    mistakes [slip (all [sign "=", ahead (choice [sign ")", comma])]) .missingDefault]]

/-- A parameter with a default. -/
def defaultParameter : Pattern := phrase [parameter, presetValue, parameterEnd]

/-- A parameter, perhaps with a default. -/
def anyParameter : Pattern := phrase [parameter, maybe presetValue, parameterEnd]

/-- Parameters without defaults, and the slash after them. -/
def plainBeforeSlash : Pattern := phrase [some plainParameter, sign "/", parameterEnd]

/-- Parameters, the last of which has a default, and the slash after them. -/
def defaultBeforeSlash : Pattern :=
  phrase [any plainParameter, some defaultParameter, sign "/", parameterEnd]

/-- The mistakes in the parameter that takes all keys. -/
def badKeyParameter : Pattern :=
  mistakes [slip (all [sign "**", parameter, mark (sign "=")]) .doublyStarredDefault,
    slip (all [sign "**", parameter, comma, mark parameter]) .parameterAfterKeys,
    slip (all [sign "**", parameter, comma, mark (choice [sign "*", sign "**", sign "/"])])
      .parameterAfterKeys]

/-- The parameter that takes all keys. -/
def keyParameter : Pattern := choice [badKeyParameter, all [sign "**", plainParameter]]

/-- The mistakes from a star on. -/
def badStarParameters : Pattern :=
  let plainOrComma := choice [plainParameter, comma]
  mistakes [
    lateSlip (all [sign "*", choice [sign ":", all [comma, choice [sign ":", sign "**"]]]])
      .emptyStar,
    slip (all [sign "*", parameter, mark (sign "=")]) .starredDefault,
    slip (all [sign "*", plainOrComma, any anyParameter, mark (sign "*"), plainOrComma])
      .secondStar]

/-- The parameters from a star on. -/
def starParameters : Pattern :=
  choice [badStarParameters,
    all [sign "*", plainParameter, any anyParameter, maybe keyParameter],
    all [sign "*", comma, some anyParameter, maybe keyParameter], keyParameter]

/-- The mistakes in the parameters of a function. -/
def badParameters : Pattern :=
  let slash := choice [plainBeforeSlash, defaultBeforeSlash]
  mistakes [
    slip (all [any plainParameter, choice [defaultBeforeSlash, some defaultParameter],
      mark plainParameter]) .plainAfterDefault,
    slip (all [any plainParameter, mark (sign "("), list parameter, maybe comma, sign ")"])
      .groupedParameters,
    slip (all [sign "/", comma]) .leadingSlash,
    slip (all [slash, any anyParameter, mark (sign "/")]) .secondSlash,
    slip (all [maybe slash, any anyParameter, sign "*", choice [comma, plainParameter],
      any anyParameter, mark (sign "/")]) .slashAfterStar,
    slip (all [some anyParameter, sign "/", mark (sign "*")]) .missingSlashComma]

/-- The parameters of a function in their order. -/
def ordered : Pattern :=
  let rest := maybe starParameters
  choice [all [plainBeforeSlash, any plainParameter, any defaultParameter, rest],
    all [defaultBeforeSlash, any defaultParameter, rest],
    all [some plainParameter, any defaultParameter, rest], all [some defaultParameter, rest],
    starParameters]

/-- The parameters of a function. -/
def parameters : Pattern := choice [badParameters, ordered]

end Polyglot.Literal.Parameters
