import Polyglot.Literal.Parameters

/-! # The grammar of expressions

The grammar is a table in which every rule has a pattern. It is the grammar of all expressions,
since a text that is an expression and no literal has a flaw of another kind than one that is not an
expression.
-/

namespace Polyglot.Literal

namespace Rule

open Pattern

/-- An operation on two operands, with a sign between them. -/
def binary (form : Form) (mark : String) (operand : Rule) : Pattern :=
  make form (all [sign mark, operand])

/-- Operands with signs between them, from left to right. -/
def chain (operand : Rule) (steps : List Pattern) : Pattern :=
  inner (fold operand (oneOf steps))

/-- Operands with a word between them. -/
def joined (mark : String) (operand : Rule) : Pattern :=
  alt (make .operation (all [operand, some (phrase [word mark, operand])])) operand

/-- A step of a comparison. -/
def compared : Pattern :=
  let against (marks : List Pattern) : Pattern := phrase (marks ++ [Pattern.rule union])
  choice [against [sign "=="], against [inner (sign "!=")], against [sign "<="], against [sign "<"],
    against [sign ">="], against [sign ">"], against [word "not", word "in"],
    inner (make .membership (all [word "in", union])), against [word "is", word "not"],
    against [word "is"]]

/-- An expression that depends on a condition. -/
def conditional : Pattern :=
  make .conditional (all [disjunction, word "if", disjunction, word "else", expression])

/-- An expression that is not followed by the sign of an assignment. -/
def unassigned : Pattern := all [expression, absent (sign ":=")]

/-- What a generator yields. -/
def yieldedEach : Pattern := choice [assignment, unassigned]

/-- The signs that tell an assignment from the mistakes for one. -/
def anyAssignment : Pattern := choice [sign "=", sign ":="]

/-- What follows the targets of a clause. -/
def clauseRest : Pattern :=
  commit (all [disjunction, any (phrase [word "if", disjunction])])

/-- A clause that begins with some patterns. -/
def clause (before : List Pattern) : Pattern :=
  all (before ++ [word "for", targets, word "in", clauseRest])

/-- What may follow the first part of a target. -/
def targetAhead : Pattern := choice [sign "(", sign "."]

/-- The arguments of a call. -/
def called : Pattern := make .call (all [sign "(", maybe arguments, sign ")"])

/-- What may follow the first part of a primary expression. -/
def primarySteps : List Pattern :=
  [make .attribute (all [sign ".", name]), make .call generator, called]

/-- An argument that is given with its key. -/
def keyed : Pattern := make .keyword (all [name, sign "=", expression])

/-- The mistakes in a value of a dictionary. -/
def badValues : List Pattern :=
  [wrong (all [expression, sign ":", mark (sign "*"), union]) .start .starredValue,
    wrong (all [expression, mark (sign ":"), ahead (choice [sign "\x7d", comma])]) .start
      .missingValue]

/-- The mistakes in an argument with its key. -/
def badKeyword : Pattern :=
  mistakes [
    mistake (all [choice constants, sign "="]) .start (titleFlaw? .constantKey),
    slip (all [name, sign "=", expression, forClauses]) .assignmentForEquality,
    slip (all [absent (phrase [name, sign "="]), expression, sign "="]) .expressionKey]

/-- Arguments of which the first has a key, with a pattern for each one that has none. -/
def keywordsIn (each : Pattern → Pattern) : Pattern :=
  let keyOrStarred := choice [badKeyword, keyed, each starred]
  let keyOrUnpacked := choice [badKeyword, keyed, make .unpacked (all [sign "**", expression])]
  oneOf [all [list keyOrStarred, comma, list keyOrUnpacked], list keyOrStarred, list keyOrUnpacked]

/-- Arguments, with a pattern for each one that has no key. -/
def argumentsIn (each : Pattern → Pattern) : Pattern :=
  let keywords := inner (keywordsIn each)
  let byPlace := list (each (choice [Pattern.rule starred, all [yieldedEach, absent (sign "=")]]))
  alt (all [byPlace, maybe (phrase [comma, keywords])]) keywords

/-- Arguments of a call. -/
def positional : Pattern := inner (argumentsIn id)

/-- The arguments of a call as the parts of one tree. -/
def gathered : Pattern := make .call positional

/-- The arguments of a call as the parts of one tree, which is told to begin with the last one that
has no key. -/
def gatheredToLast : Pattern := make .call (inner (argumentsIn mark))

/-- The mistakes in an expression. -/
def badExpression : Pattern :=
  mistakes [
    mistake (all [absent (choice [all [name, string], softWord]), disjunction, plainExpression])
      .start commaFlaw?,
    slip (all [disjunction, word "if", disjunction, absent (choice [word "else", sign ":"])])
      .missingElse]

/-- A call without its brackets. -/
def badCall : Pattern :=
  mistakes [mistake (all [name, absent (sign "("), starExpressions]) .start callFlaw?]

/-- The mistakes in a group. -/
def badGroup : Pattern :=
  mistakes [slip (all [sign "(", mark starred, sign ")"]) .starredGroup,
    slip (all [sign "(", mark (sign "**"), expression, sign ")"]) .doublyStarredGroup]

/-- The mistakes in a generator or in what makes a set. -/
def badGenerator : Pattern :=
  mistakes [
    slip (all [choice [sign "(", sign "\x7b"], mark starred, forClauses]) .starredGenerator,
    slip (all [inner (sign "\x7b"), mark starNamed, comma, starNamedList, forClauses]) .bareTarget,
    slip (all [inner (sign "\x7b"), mark starNamed, comma, forClauses]) .bareTarget]

/-- The mistakes in what makes a dictionary. -/
def badDictFor : Pattern :=
  mistakes [slip (all [sign "\x7b", mark (sign "**"), union, forClauses, sign "\x7d"])
    .doublyStarredGenerator]

/-- The mistakes in a clause. -/
def badForClause : Pattern :=
  mistakes [
    mistake (all [maybe (word "async"), word "for", mark starExpressions]) .start targetFlaw?]

/-- The mistakes in arguments. -/
def badArguments : Pattern :=
  mistakes [
    slip (all [positional, comma, sign "*"]) .starAfterKeys,
    slip (all [expression, forClauses, comma,
      maybe (choice [positional, all [expression, forClauses]])]) .bareGenerator,
    slip (all [name, sign "=", expression, forClauses]) .assignmentForEquality,
    mistake (all [gatheredToLast, forClauses]) .start generatorFlaw?,
    slip (all [positional, comma, mark expression, forClauses]) .bareGenerator,
    mistake (all [gathered, comma, positional]) .reach argumentFlaw?]

/-- The pattern of a rule. -/
def pattern : Rule → Pattern
  | start => all [expressions, any newline, finish]
  | expressions =>
    oneOf [make .tuple (all [expression, some (phrase [comma, expression]), maybe comma]),
      make .tuple (all [expression, comma]), expression]
  | expression => oneOf [badExpression, badCall, conditional, disjunction, function]
  | plainExpression => quiet (oneOf [conditional, disjunction, function])
  | function =>
    make .function (all [word "lambda", maybe Parameters.parameters, sign ":", expression])
  | yielded =>
    alt (make .yielded (all [word "yield", word "from", expression]))
      (make .yielded (all [word "yield", maybe starExpressions]))
  | starExpressions =>
    oneOf [
      make .tuple (all [starExpression, some (phrase [comma, starExpression]), maybe comma]),
      make .tuple (all [starExpression, comma]), starExpression]
  | starExpression => alt (make .starred (all [sign "*", union])) expression
  | starNamedList => all [list starNamed, maybe comma]
  | starNamed => alt (make .starred (all [sign "*", union])) named
  | assignment => make .assignment (all [name, sign ":=", commit expression])
  | named => oneOf [assignment, sought badNamed, unassigned]
  | badNamed =>
    oneOf [
      mistake (all [expression, sign ":=", expression]) .start (titleFlaw? .badAssignment),
      slip (all [name, sign "=", union, absent anyAssignment]) .assignmentForEquality,
      mistake (all [absent (choice (tuple :: generator :: constants)), union, sign "=", union,
        absent anyAssignment]) .start (titleFlaw? .equalityForAssignment)]
  | disjunction => joined "or" conjunction
  | conjunction => joined "and" inversion
  | inversion => alt (make .operation (all [word "not", inversion])) comparison
  | comparison => alt (make .comparison (all [union, some compared])) union
  | union => chain difference [binary .operation "|" difference]
  | difference => chain «section» [binary .operation "^" «section»]
  | «section» => chain shift [binary .operation "&" shift]
  | shift => chain sum [binary .operation "<<" sum, binary .operation ">>" sum]
  | sum => chain term [binary .plus "+" term, binary .minus "-" term]
  | term =>
    chain factor (["*", "/", "//", "%", "@"].map fun mark => binary .operation mark factor)
  | factor =>
    oneOf [make .positive (all [sign "+", factor]), make .negative (all [sign "-", factor]),
      make .operation (all [sign "~", factor]), power]
  | power => alt (make .operation (all [awaited, sign "**", factor])) awaited
  | awaited => alt (make .awaited (all [word "await", primary])) primary
  | primary => inner (fold atom (oneOf primarySteps))
  | atom =>
    oneOf [name, oneOf constants, all [ahead string, strings], check number .nowhere numberFlaw?,
      all [ahead (sign "("), choice [tuple, group, generator]],
      all [ahead (sign "\x7b"), choice [dict, set, dictFor, setFor]], ellipsis]
  | strings => quoted (some string)
  | tuple =>
    make .tuple (all [sign "(", maybe (phrase [starNamed, comma, maybe starNamedList]), sign ")"])
  | group => alt (all [sign "(", mark (choice [yielded, named]), sign ")"]) badGroup
  | generator =>
    alt (make .generator (all [sign "(", yieldedEach, forClauses, sign ")"])) badGenerator
  | set => make .set (all [sign "\x7b", starNamedList, sign "\x7d"])
  | setFor =>
    alt (make .setFor (all [sign "\x7b", named, forClauses, sign "\x7d"])) badGenerator
  | dict =>
    alt (make .dict (all [sign "\x7b", maybe pairs, sign "\x7d"]))
      (all [sign "\x7b", badPairs, sign "\x7d"])
  | dictFor => alt (make .dictFor (all [sign "\x7b", pair, forClauses, sign "\x7d"])) badDictFor
  | pairs => all [list pairOrUnpacked, maybe comma]
  | pairOrUnpacked => alt (make .unpacked (all [sign "**", union])) pair
  | pair => make .pair (all [expression, sign ":", expression])
  | badPairs => oneOf (all [list pairOrUnpacked, comma, badPair] :: badValues)
  | badPair =>
    oneOf (wrong (all [expression, absent (sign ":")]) .finish .missingColon :: badValues)
  | forClauses => some forClause
  | forClause => oneOf [clause [word "async"], clause [], badForClause]
  | targets =>
    alt (all [target, absent comma]) (all [target, any (phrase [comma, target]), maybe comma])
  | target => alt (all [sign "*", phrase [absent (sign "*"), target]]) plainTarget
  | plainTarget => alt (all [targetPrimary, sign ".", name, absent targetAhead]) targetAtom
  | targetPrimary =>
    inner (fold (all [atom, ahead targetAhead])
      (oneOf (primarySteps.map fun step => all [step, ahead targetAhead])))
  | targetAtom =>
    oneOf [name, all [sign "(", plainTarget, sign ")"],
      all [sign "(", maybe targetList, sign ")"]]
  | targetList =>
    alt (all [target, some (phrase [comma, target]), maybe comma]) (all [target, comma])
  | arguments => alt (all [positional, maybe comma, ahead (sign ")")]) badArguments
  | starred => make .starred (all [sign "*", expression])

end Rule

end Polyglot.Literal
