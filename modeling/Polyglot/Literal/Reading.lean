import Polyglot.Literal.Braces
import Polyglot.Literal.Grammar
import Polyglot.Text.Newline

/-! # Reading expressions

A text is read by the pattern of the first rule. If that fails, it is read once more, and this time
mistakes are looked for; the first one is the flaw of the text. A flaw of the tokens that follow
comes before it, and so does a bracket that is never closed if it was opened on an earlier line than
the last token that was looked at.

Rules may lie one in another only so deep, and expressions, too. An expression between braces in a
string is read in the same way by a reader of its own, which starts from no depth. A flaw that it
finds is told with its column in the text around; a column before that of the brace cannot be told.
-/

namespace Polyglot.Literal

/-- Where something that was read is told to begin: the place of its first token, if it has one, or
one that was marked. -/
structure Start where
  place? : Option Nat
  isMarked : Bool

namespace Start

/-- The beginning of nothing. -/
def nothing : Start := ⟨none, false⟩

/-- The beginning at a place. -/
def atPlace (place : Nat) : Start := ⟨some place, false⟩

/-- The beginning of two things that follow each other. -/
def before (first second : Start) : Start :=
  if second.isMarked || first.place?.isNone then second else first

/-- A beginning that is told for all that is around it. -/
def marked (s : Start) : Start := { s with isMarked := true }

/-- A beginning that is told for itself only. -/
def plain (s : Start) : Start := { s with isMarked := false }

end Start

/-- How reading a pattern ends. -/
inductive Outcome where
  /-- The pattern fits: the place after it, what was read, and where that begins. -/
  | found (next : Nat) (trees : List Tree) (start : Start)
  | failed
  /-- The pattern does not fit, and no other alternative of its rule is tried. -/
  | abandoned
  | refused (failure : Failure)

/-- What is remembered while reading: the outcomes of rules, and the last token looked at. -/
structure Memory where
  outcomes : Array (Option Outcome)
  reach : Nat

/-- The memory before some tokens are read, given the last one that was looked at. -/
def Memory.empty (count reach : Nat) : Memory :=
  ⟨Array.replicate ((count + 1) * Rule.rememberedCount) none, reach⟩

/-- The index of a rule at a place. -/
def Memory.index (r : Rule) (place : Nat) : Nat := place * Rule.rememberedCount + r.ctorIdx

/-- The outcome of a rule at a place. -/
def Memory.recall? (m : Memory) (r : Rule) (place : Nat) : Option Outcome :=
  if r.isRemembered then (m.outcomes[Memory.index r place]?).join else none

/-- Remembers the outcome of a rule at a place. -/
def Memory.remember (m : Memory) (r : Rule) (place : Nat) (o : Outcome) : Memory :=
  if r.isRemembered then
    { m with outcomes := m.outcomes.setIfInBounds (Memory.index r place) (some o) }
  else m

/-- Notes that the token at a place is looked at. -/
def Memory.reaching (m : Memory) (place : Nat) : Memory :=
  if m.reach < place then { m with reach := place } else m

/-- Puts an expression into the first place of what follows it, again and again. -/
def nest : List Tree → List Tree
  | base :: steps =>
    [steps.foldl (fun t step =>
      match step with
      | .node form parts => .node form (t :: parts)
      | leaf => leaf) base]
  | [] => []

/-- The outcome of a rule, given the outcome of its pattern. -/
def Outcome.ofRule : Outcome → Outcome
  | abandoned => failed
  | found next trees start => found next trees start.plain
  | o => o

/-- The outcome of a pattern that lies deeper. -/
def Outcome.ofInner : Outcome → Outcome
  | abandoned => failed
  | o => o

/-- The outcome of a pattern after another one that fits. -/
def Outcome.after (trees : List Tree) (start : Start) : Outcome → Outcome
  | found next more second => found next (trees ++ more) (start.before second)
  | o => o

/-- The outcome for an expression with what follows it, given where the expression begins. -/
def Outcome.nested (place : Nat) : Outcome → Outcome
  | found next trees start =>
    found next (nest trees) (if 1 < trees.length then .atPlace place else start)
  | o => o

/-- The outcome for an expression of a form, given the outcome for its parts, which begin at a
place. -/
def Outcome.made (form : Form) (place : Nat) : Outcome → Outcome
  | found next parts start =>
    found next [.node form parts] (if start.isMarked then start else .atPlace place)
  | o => o

/-- The outcome of a pattern that is marked. -/
def Outcome.marked : Outcome → Outcome
  | found next trees start => found next trees start.marked
  | o => o

/-- What a text is read with: its tokens, its origin, and how an expression between braces with an
origin is read. -/
structure Reader where
  tokens : Array Token
  origin : Origin
  embedded : Origin → Text → Except Failure Tree

/-- The flaw of a token for a reader that comes to it. -/
def Reader.flaw? (reader : Reader) (place : Nat) : Option Flaw :=
  match (reader.tokens[place]?).map Token.lexeme with
  | some (.stop flaw) => some flaw
  | _ => none

/-- Reads one token. -/
def Reader.token (reader : Reader) (test : Lexeme → Bool) (isKept : Bool) (place : Nat) : Outcome :=
  match reader.tokens[place]? with
  | none => .failed
  | some t =>
    match t.lexeme with
    | .stop flaw => .refused (.flaw flaw)
    | lexeme =>
      if !test lexeme then .failed
      else .found (place + 1) (if isKept then [.leaf lexeme] else []) (.atPlace place)

/-- The column that is told with a flaw, counted from one; nothing counts as zero. -/
def Reader.columnOf (reader : Reader) (site : Site) (next : Nat) (start : Start) (reach : Nat) :
    Nat :=
  let tokenAt (place : Nat) : Nat := ((reader.tokens[place]?).map Token.column).getD 0 + 1
  match site with
  | .start => tokenAt (start.place?.getD next)
  | .finish => ((reader.tokens[next - 1]?).map Token.nextColumn).getD 0
  | .reach => tokenAt reach
  | .nowhere => 0

/-- The failure for a flaw that is told with a column. -/
def Reader.failureAt (reader : Reader) (column : Nat) (flaw : Flaw) : Failure :=
  if column < reader.origin.column then .limit .place else .flaw flaw

/-- The strings among the tokens from a place up to another one, with their origins. -/
def Reader.strings (reader : Reader) (first next : Nat) : List (Origin × Text) :=
  (reader.tokens.extract first next).toList.filterMap fun t =>
    match t.lexeme with
    | .string text => some (⟨t.line, t.column⟩, text)
    | _ => none

/-- The failure of strings, given the place of the first one and the last token that was looked at.
A flaw of an expression in braces was told by its own reader. -/
def Reader.stringFailure (reader : Reader) (first reach : Nat) : Failure → Failure
  | .limit l => .limit l
  | .flaw (.foreignByte) =>
    reader.failureAt (reader.columnOf .start first (.atPlace first) reach) .foreignByte
  | .flaw flaw =>
    match flaw with
    | .escape _ | .mixedStrings | .braces _ =>
      reader.failureAt (reader.columnOf .reach first (.atPlace first) reach) flaw
    | _ => .flaw flaw

/-- The outcome of strings that have been read: what is between braces in them is read, too. -/
def Reader.quoted (reader : Reader) (first reach : Nat) : Outcome → Outcome
  | .found next trees _ =>
    match readStrings reader.embedded none (reader.strings first next) with
    | .error failure => .refused (reader.stringFailure first reach failure)
    | .ok inner =>
      .found next [.node .strings (trees ++ inner.map fun t => .node .braced [t])] (.atPlace first)
  | o => o

/-- The outcome of a pattern that may have a flaw when it fits. -/
def Reader.checked (reader : Reader) (site : Site) (flaw? : List Tree → Option Flaw) (reach : Nat) :
    Outcome → Outcome
  | .found next trees start =>
    match flaw? trees with
    | some flaw => .refused (reader.failureAt (reader.columnOf site next start reach) flaw)
    | none => .found next trees start
  | o => o

/-- The outcome of a mistake. -/
def Reader.mistaken (reader : Reader) (site : Site) (flaw? : List Tree → Nat → Option Flaw)
    (reach : Nat) : Outcome → Outcome
  | .found next trees start =>
    let depth := ((reader.tokens[next - 1]?).map Token.depth).getD 0
    match flaw? trees depth with
    | some flaw => .refused (reader.failureAt (reader.columnOf site next start reach) flaw)
    | none => .abandoned
  | o => o

/-- No rule lies as many levels deep as this. -/
def levelLimit : Nat := 6000

/-- Reads a pattern at a place. The first argument bounds the depth of patterns within patterns,
`seek` tells whether mistakes are looked for, and `level` counts the rules that lie around. -/
def read (reader : Reader) : Nat → Bool → Nat → Pattern → Nat → Memory → Outcome × Memory
  | 0, _, _, _, _, m => (.failed, m)
  | depth + 1, seek, level, p, place, m =>
    match p with
    | .empty => (.found place [] .nothing, m)
    | .never => (.failed, m)
    | .token test isKept => (reader.token test isKept place, m.reaching place)
    | .rule r =>
      if levelLimit ≤ level then (.refused (.limit .nesting), m)
      else
        match m.recall? r place with
        | some o => (o, m)
        | none =>
          let m := m.reaching place
          match reader.flaw? place with
          | some flaw => (.refused (.flaw flaw), m)
          | none =>
            let (o, m) := read reader depth seek (level + 1) r.pattern place m
            (o.ofRule, m.remember r place o.ofRule)
    | .inner q =>
      if levelLimit ≤ level then (.refused (.limit .nesting), m)
      else
        let (o, m) := read reader depth seek (level + 1) q place m
        (o.ofInner, m)
    | .seq first second =>
      match read reader depth seek level first place m with
      | (.found next trees start, m) =>
        let (o, m) := read reader depth seek level second next m
        (o.after trees start, m)
      | other => other
    | .alt first second =>
      match read reader depth seek level first place m with
      | (.failed, m) => read reader depth seek level second place m
      | other => other
    | .many q =>
      match read reader depth seek level q place m with
      | (.found next trees start, m) =>
        let (o, m) := read reader depth seek level (.many q) next m
        (o.after trees start, m)
      | (.failed, m) => (.found place [] .nothing, m)
      | other => other
    | .fold base step =>
      let (o, m) := read reader depth seek level (.seq base (.many step)) place m
      (o.nested place, m)
    | .ahead q =>
      match read reader depth seek level q place m with
      | (.found _ _ _, m) => (.found place [] .nothing, m)
      | other => other
    | .absent q =>
      match read reader depth seek level q place m with
      | (.found _ _ _, m) => (.failed, m)
      | (.refused failure, m) => (.refused failure, m)
      | (_, m) => (.found place [] .nothing, m)
    | .make form q =>
      let (o, m) := read reader depth seek level q place m
      (o.made form place, m)
    | .mark q =>
      let (o, m) := read reader depth seek level q place m
      (o.marked, m)
    | .commit q =>
      match read reader depth seek level q place m with
      | (.failed, m) => (.abandoned, m)
      | other => other
    | .sought q => if seek then read reader depth seek level q place m else (.failed, m)
    | .quiet q => read reader depth false level q place m
    | .quoted q =>
      let (o, m) := read reader depth seek level q place m
      (reader.quoted place m.reach o, m)
    | .check q site flaw? =>
      let (o, m) := read reader depth seek level q place m
      (reader.checked site flaw? m.reach o, m)
    | .mistake q site flaw? =>
      let (o, m) := read reader depth seek level q place m
      (reader.mistaken site flaw? m.reach o, m)

/-- No pattern reaches deeper than this at one token. -/
def depthOfToken : Nat := 1000

/-- Reads all tokens by a rule, with a last token that has been looked at. -/
def Reader.run (reader : Reader) (r : Rule) (seek : Bool) (reach : Nat) : Outcome × Memory :=
  let count := reader.tokens.size
  read reader (depthOfToken * (count + 1)) seek 0 (.rule r) 0 (.empty count reach)

/-! ### Flaws of tokens -/

/-- The flaw of tokens: one of the tokens themselves, or another one. -/
def Tokens.orFlaw (ts : Tokens) (flaw : Flaw) : Flaw := ts.flaw?.getD flaw

/-- The flaw of tokens, given another one and the last token that was looked at: a bracket that was
opened on an earlier line and is never closed comes before it. -/
def Tokens.orOpen (ts : Tokens) (flaw : Flaw) (last : Token) : Flaw :=
  ts.orFlaw <|
    match ts.openBracket with
    | some (opening, line) => if line < last.line then .unclosed opening else flaw
    | none => flaw

/-- The failure of tokens, given one that was found and the last token that was looked at. The
tokens that follow are looked at only if there is a flaw and the end of the text was not noticed
yet. -/
def Tokens.found (ts : Tokens) (failure : Failure) (last? : Option Token) : Failure :=
  match failure, last? with
  | .flaw flaw, some last =>
    match last.lexeme with
    | .stop _ => failure
    | _ => if last.isAtEnd then failure else .flaw (ts.orOpen flaw last)
  | _, _ => failure

/-- The failure of tokens in an order that no expression has, given the last token that was looked
at, and the one that was looked at when mistakes were not yet looked for, with which the flaw is
told. -/
def Tokens.disordered (ts : Tokens) (reader : Reader) (first last : Nat) : Failure :=
  let told := reader.failureAt (reader.columnOf .reach first .nothing first) .order
  match reader.tokens[first]?, reader.tokens[last]? with
  | some ⟨.indent, _, _, _, _, _⟩, _ => .flaw .unexpectedIndent
  | _, some last =>
    match ts.orOpen .order last with
    | .order => told
    | flaw => .flaw flaw
  | _, none => told

/-! ### Texts -/

/-- Reads tokens by a rule. -/
def Tokens.read (ts : Tokens) (r : Rule) (origin : Origin)
    (embedded : Origin → Text → Except Failure Tree) : Except Failure Tree :=
  let reader : Reader := ⟨ts.list.toArray, origin, embedded⟩
  match reader.run r false 0 with
  | (.found _ [tree] _, _) => .ok tree
  | (.refused failure, m) => .error (ts.found failure reader.tokens[m.reach]?)
  | (_, first) =>
    match reader.run r true first.reach with
    | (.refused failure, m) => .error (ts.found failure reader.tokens[m.reach]?)
    | (_, m) => .error (ts.disordered reader first.reach m.reach)

/-- Reads an expression between braces in a string, as if it were between parentheses. The first
argument bounds the strings that lie one in another. -/
def readEmbedded : Nat → Origin → Text → Except Failure Tree
  | 0, _, _ => .error (.limit .nesting)
  | depth + 1, origin, t =>
    let ts := tokens origin ([('(' : CodePoint)] ++ t ++ [(')' : CodePoint), CodePoint.lineFeed])
    (ts.read .starExpressions origin (readEmbedded depth)).mapError Failure.inBraces

/-- The greatest number of expressions that lie one in another. -/
def expressionLimit : Nat := 2939

/-- Reads an expression. -/
def Tree.ofText (t : Text) : Except Failure Tree := do
  if t.contains 0 then throw (.limit .nul)
  let ts := tokens .outermost (Text.unifyNewlines t)
  let tree ← ts.read .start .outermost (readEmbedded (t.length + 1))
  if tree.isDeeper (2 * expressionLimit) expressionLimit then throw (.limit .depth)
  return tree

end Polyglot.Literal
