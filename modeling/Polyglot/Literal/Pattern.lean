import Polyglot.Literal.Tree

/-! # Patterns of tokens

The order of tokens is described by patterns, which may name rules. Of the alternatives of a pattern
the first one that fits is taken. A pattern may also complain: it describes a common mistake, and
stands for a flaw where it fits. Every rule lies a level deeper than what names it, and so do a
repetition, a list and a choice inside of a pattern.
-/

namespace Polyglot.Literal

/-- The names of the rules. The outcomes of those before `start` are remembered. -/
inductive Rule where
  | expression
  | starExpression
  | badNamed
  | disjunction
  | conjunction
  | inversion
  | union
  | difference
  | section
  | shift
  | sum
  | term
  | factor
  | awaited
  | primary
  | strings
  | target
  | plainTarget
  | targetPrimary
  | arguments
  /-- A whole text. -/
  | start
  | expressions
  | plainExpression
  | function
  | yielded
  | starExpressions
  | starNamedList
  | starNamed
  | assignment
  | named
  | comparison
  | power
  | atom
  | tuple
  | group
  | generator
  | set
  | setFor
  | dict
  | dictFor
  | pairs
  | pairOrUnpacked
  | pair
  | badPairs
  | badPair
  | forClauses
  | forClause
  | targets
  | targetAtom
  | targetList
  | starred
  deriving DecidableEq

namespace Rule

/-- The number of rules whose outcomes are remembered. -/
def rememberedCount : Nat := start.ctorIdx

/-- Holds of the rules whose outcome at a token is remembered, whether mistakes were looked for or
not when it was found. -/
def isRemembered (r : Rule) : Bool := r.ctorIdx < rememberedCount

end Rule

/-- The place that is told with a flaw. -/
inductive Site where
  /-- Where what was read begins, or what is marked in it. -/
  | start
  /-- The end of what was read. -/
  | finish
  /-- The last token that was looked at. -/
  | reach
  /-- No place. -/
  | nowhere

/-- A pattern of tokens. -/
inductive Pattern where
  | empty
  /-- A token that passes a test, and whether it is kept as a leaf. -/
  | token (test : Lexeme → Bool) (isKept : Bool)
  | rule (rule : Rule)
  /-- A pattern that lies one level deeper, as that of a rule does. -/
  | inner (p : Pattern)
  | seq (first second : Pattern)
  | alt (first second : Pattern)
  | never
  | many (p : Pattern)
  /-- An expression, and what may follow it any number of times and takes it as its first part. -/
  | fold (base step : Pattern)
  /-- Something that has to follow but is not read. -/
  | ahead (p : Pattern)
  /-- Something that may not follow. -/
  | absent (p : Pattern)
  | make (form : Form) (p : Pattern)
  /-- What is told as the beginning of all that is read with it. -/
  | mark (p : Pattern)
  /-- Something that has to follow, since no other alternative can fit any more. -/
  | commit (p : Pattern)
  /-- Something that is tried only while mistakes are looked for. -/
  | sought (p : Pattern)
  /-- Something in which mistakes are not looked for. -/
  | quiet (p : Pattern)
  /-- Strings, which have to be right by themselves. -/
  | quoted (p : Pattern)
  /-- Something that has a flaw by itself, given what was read. -/
  | check (p : Pattern) (site : Site) (flaw? : List Tree → Option Flaw)
  /-- A mistake, given what was read and the number of brackets that are open after it. If it is no
  flaw after all, no other alternative is tried. -/
  | mistake (p : Pattern) (site : Site) (flaw? : List Tree → Nat → Option Flaw)

instance : Coe Rule Pattern := ⟨Pattern.rule⟩

namespace Pattern

/-- Patterns one after another. -/
def all (ps : List Pattern) : Pattern := ps.foldr seq empty

/-- The first pattern that fits. -/
def oneOf (ps : List Pattern) : Pattern := ps.foldr alt never

/-- Patterns one after another, as one that lies deeper. -/
def phrase (ps : List Pattern) : Pattern := inner (all ps)

/-- The first pattern that fits, as one that lies deeper. -/
def choice (ps : List Pattern) : Pattern := inner (oneOf ps)

/-- A pattern that need not fit. -/
def maybe (p : Pattern) : Pattern := alt p empty

/-- A pattern any number of times. -/
def any (p : Pattern) : Pattern := inner (many p)

/-- A pattern once or more. -/
def some (p : Pattern) : Pattern := inner (seq p (many p))

/-- A sign. -/
def sign (s : String) : Pattern :=
  token (fun | .sign t => t == Text.ofString s | _ => false) false

/-- The sign between the members of a list. -/
def comma : Pattern := sign ","

/-- A pattern once or more, with commas between. -/
def list (p : Pattern) : Pattern := inner (seq p (any (seq comma p)))

/-- A token that is the name for something in the language. -/
def isWord (s : String) : Lexeme → Bool
  | .name t => t == Text.ofString s
  | _ => false

/-- A word of the language. -/
def word (s : String) : Pattern := token (isWord s) false

/-- A word that is kept. -/
def constant (s : String) : Pattern := token (isWord s) true

/-- The constants with a name. -/
def constants : List Pattern := [constant "True", constant "False", constant "None"]

/-- A name. -/
def name : Pattern :=
  token (fun | .name t => !reservedWords.contains t | _ => false) true

/-- Words that are names in most places. -/
def softWords : List Text := ["_", "case", "match"]

/-- A word that is a name in most places, or the beginning of such a word. -/
def softWord : Pattern :=
  token (fun | .name t => softWords.any fun word => t.isPrefixOf word | _ => false) false

/-- A number. -/
def number : Pattern := token (fun | .number _ => true | _ => false) true

/-- A string. -/
def string : Pattern := token (fun | .string _ => true | _ => false) true

/-- The sign for what is left out, which is a constant. -/
def ellipsis : Pattern := token (fun | .sign t => t == ("..." : Text) | _ => false) true

/-- The end of a line. -/
def newline : Pattern := token (fun | .newline => true | _ => false) false

/-- The end of the text. -/
def finish : Pattern := token (fun | .finish => true | _ => false) false

/-- A pattern that is a mistake wherever it fits. -/
def wrong (p : Pattern) (site : Site) (flaw : Flaw) : Pattern :=
  check p site fun _ => Option.some flaw

/-- A pattern that is one of the mistakes that are looked for. -/
def slip (p : Pattern) (flaw : Flaw) : Pattern := mistake p .start fun _ _ => Option.some flaw

/-- A slip at the last token that was looked at. -/
def lateSlip (p : Pattern) (flaw : Flaw) : Pattern := mistake p .reach fun _ _ => Option.some flaw

/-- Mistakes that are looked for, in a rule of their own. -/
def mistakes (ps : List Pattern) : Pattern := sought (choice ps)

end Pattern

/-! ### Flaws of what was read -/

/-- The flaw of two expressions side by side. -/
def commaFlaw? (read : List Tree) (depth : Nat) : Option Flaw :=
  match read with
  | t :: _ => if t.oldCall?.isSome || depth == 0 then none else some .missingComma
  | [] => none

/-- The flaw of a name before other expressions. -/
def callFlaw? (read : List Tree) (_ : Nat) : Option Flaw :=
  read.head?.bind fun t => t.oldCall?.map .missingCall

/-- The flaw that tells the first expression. -/
def titleFlaw? (flaw : Text → Flaw) (read : List Tree) (_ : Nat) : Option Flaw :=
  read.head?.map fun t => flaw t.title

/-- The flaw of a number with too many digits. -/
def numberFlaw? : List Tree → Option Flaw
  | [.leaf (.number t)] =>
    let digits := t.filter (· ≠ ('_' : CodePoint))
    if digits.all CodePoint.isAsciiDigit ∧ Json.digitLimit < digits.length then
      some (.longNumber digits.length)
    else none
  | _ => none

/-- The flaw of a target that is none. -/
def targetFlaw? (read : List Tree) (_ : Nat) : Option Flaw :=
  (firstNoTarget? read).map fun t => .badTarget t.title

/-- The flaw of arguments before a generator. -/
def generatorFlaw? (read : List Tree) (_ : Nat) : Option Flaw :=
  match read with
  | .node _ parts :: _ => if 1 < parts.countP Tree.isPositional then some .bareGenerator else none
  | _ => none

/-- The flaw of arguments before others. -/
def argumentFlaw? (read : List Tree) (_ : Nat) : Option Flaw :=
  match read with
  | .node _ parts :: _ =>
    some (if parts.any Tree.isUnpacked then .argumentAfterKeys else .argumentAfterKey)
  | _ => none

end Polyglot.Literal
