import Polyglot.Json.Decode
import Polyglot.Text.Numeral

/-! # Flaws of literals

Why a text is no expression, as the reader of expressions finds it: a token cannot be made, a
bracket has no partner, or the tokens have an order that no expression has. Some orders are so
common that they are told apart from the others. A text can also be too deep for its reader.
-/

namespace Polyglot.Literal

/-- The forms in which a number is written. -/
inductive NumberForm where
  | decimal
  | hexadecimal
  | octal
  | binary
  | imaginary

/-- The name of a form. -/
def NumberForm.name : NumberForm → Text
  | decimal => "decimal"
  | hexadecimal => "hexadecimal"
  | octal => "octal"
  | binary => "binary"
  | imaginary => "imaginary"

/-- Why an escape in a string stands for nothing, with the first and the last place of it. -/
inductive EscapeFlaw where
  | shortByte (first last : Nat)
  | shortPoint (first last : Nat)
  | shortLongPoint (first last : Nat)
  | noPoint (first last : Nat)
  /-- An escape for a character that is not named between braces. -/
  | noName (first last : Nat)
  /-- No character has the name. -/
  | unknownName (first last : Nat)
  /-- An escape for a byte, in a string of bytes. -/
  | badByte (first : Nat)

/-- The words of a flaw of an escape. -/
def EscapeFlaw.message (flaw : EscapeFlaw) : Text :=
  let range (first last : Nat) (reason : Text) : Text :=
    "(unicode error) 'unicodeescape' codec can't decode bytes in position " ++ Text.ofNat first ++
      "-" ++ Text.ofNat last ++ ": " ++ reason
  match flaw with
  | shortByte first last => range first last "truncated \\xXX escape"
  | shortPoint first last => range first last "truncated \\uXXXX escape"
  | shortLongPoint first last => range first last "truncated \\UXXXXXXXX escape"
  | noPoint first last => range first last "illegal Unicode character"
  | noName first last => range first last "malformed \\N character escape"
  | unknownName first last => range first last "unknown Unicode character name"
  | badByte first => "(value error) invalid \\x escape at position " ++ Text.ofNat first

/-- Why the braces in a string hold no expressions. -/
inductive BraceFlaw where
  /-- A closing brace outside of braces. -/
  | single
  /-- Braces end without a closing brace, or hold more than their expression. -/
  | unfinished
  | backslash
  | comment
  | tooManyBrackets
  /-- A bracket without its partner. -/
  | unmatched (bracket : CodePoint)
  | mismatched (closing opening : CodePoint)
  | openString
  | tooDeep
  /-- There is no expression before a sign, or in the braces at all. -/
  | empty (next : Option CodePoint)
  /-- What is done with the value is none of the things that can be done with it. -/
  | conversion

/-- The words at the front of a message about the braces in a string. -/
def braceMark : Text := "f-string: "

/-- The words of a flaw of braces. -/
def BraceFlaw.message : BraceFlaw → Text
  | single => braceMark ++ "single '\x7d' is not allowed"
  | unfinished => braceMark ++ "expecting '\x7d'"
  | backslash => "f-string expression part cannot include a backslash"
  | comment => "f-string expression part cannot include '#'"
  | tooManyBrackets => braceMark ++ "too many nested parenthesis"
  | unmatched bracket => braceMark ++ "unmatched '" ++ [bracket] ++ "'"
  | mismatched closing opening =>
    braceMark ++ "closing parenthesis '" ++ [closing] ++ "' does not match opening parenthesis '" ++
      [opening] ++ "'"
  | openString => braceMark ++ "unterminated string"
  | tooDeep => braceMark ++ "expressions nested too deeply"
  | empty none => braceMark ++ "empty expression not allowed"
  | empty (some next) => braceMark ++ "expression required before '" ++ [next] ++ "'"
  | conversion => braceMark ++ "invalid conversion character: expected 's', 'r', or 'a'"

/-- Why a text is no expression. -/
inductive Flaw where
  | openString (line : Nat)
  | openLongString (line : Nat)
  | badNumber (form : NumberForm)
  | badDigit (digit : CodePoint) (form : NumberForm)
  | leadingZeros
  | longNumber (digits : Nat)
  | badCharacter (c : CodePoint)
  | unprintable (c : CodePoint)
  | tooManyBrackets
  | unmatched (closing : CodePoint)
  /-- A bracket is closed by another kind of bracket; the line is told if it is a different one. -/
  | mismatched (closing opening : CodePoint) (line : Option Nat)
  | unclosed (opening : CodePoint)
  | badContinuation
  | unexpectedEnd
  | unexpectedIndent
  | badDedent
  /-- Blanks and tabs at the front of lines cannot be compared. -/
  | mixedBlanks
  | tooManyColumns
  | escape (flaw : EscapeFlaw)
  | foreignByte
  | mixedStrings
  | braces (flaw : BraceFlaw)
  /-- A flaw of an expression that stands between braces in a string. -/
  | braced (flaw : Flaw)
  /-- The order of the tokens is that of no expression. -/
  | order
  | missingComma
  | missingElse
  | missingCall (name : Text)
  | badAssignment (target : Text)
  | assignmentForEquality
  | equalityForAssignment (target : Text)
  | constantKey (name : Text)
  | expressionKey
  | missingColon
  | missingValue
  | starredValue
  | starredGroup
  | doublyStarredGroup
  | starredGenerator
  | doublyStarredGenerator
  | bareTarget
  | badTarget (target : Text)
  | bareGenerator
  | starAfterKeys
  | argumentAfterKey
  | argumentAfterKeys
  | missingDefault
  | plainAfterDefault
  | groupedParameters
  | leadingSlash
  | secondSlash
  | slashAfterStar
  | missingSlashComma
  | emptyStar
  | starredDefault
  | secondStar
  | doublyStarredDefault
  | parameterAfterKeys

/-- A code point as four or more hexadecimal digits name it. -/
def pointName (c : CodePoint) : Text :=
  "U+" ++ Text.padLeft 4 '0' (Text.ofChars ((Nat.toDigits 16 c.val).map Char.toUpper))

/-- The words of a flaw. -/
def Flaw.message : Flaw → Text
  | openString line =>
    "unterminated string literal (detected at line " ++ Text.ofNat line ++ ")"
  | openLongString line =>
    "unterminated triple-quoted string literal (detected at line " ++ Text.ofNat line ++ ")"
  | badNumber form => "invalid " ++ form.name ++ " literal"
  | badDigit digit form => "invalid digit '" ++ [digit] ++ "' in " ++ form.name ++ " literal"
  | leadingZeros =>
    "leading zeros in decimal integer literals are not permitted; " ++
      "use an 0o prefix for octal integers"
  | longNumber digits =>
    Json.longIntegerMessage digits ++
      " - Consider hexadecimal for huge integer literals to avoid decimal conversion limits."
  | badCharacter c => "invalid character '" ++ [c] ++ "' (" ++ pointName c ++ ")"
  | unprintable c => "invalid non-printable character " ++ pointName c
  | tooManyBrackets => "too many nested parentheses"
  | unmatched closing => "unmatched '" ++ [closing] ++ "'"
  | mismatched closing opening line =>
    "closing parenthesis '" ++ [closing] ++ "' does not match opening parenthesis '" ++ [opening] ++
      "'" ++
      (match line with
      | none => []
      | some line => " on line " ++ Text.ofNat line)
  | unclosed opening => "'" ++ [opening] ++ "' was never closed"
  | badContinuation => "unexpected character after line continuation character"
  | unexpectedEnd => "unexpected EOF while parsing"
  | unexpectedIndent => "unexpected indent"
  | badDedent => "unindent does not match any outer indentation level"
  | mixedBlanks => "inconsistent use of tabs and spaces in indentation"
  | tooManyColumns => "too many levels of indentation"
  | escape flaw => flaw.message
  | foreignByte => "bytes can only contain ASCII literal characters"
  | mixedStrings => "cannot mix bytes and nonbytes literals"
  | braces flaw => flaw.message
  | braced flaw => braceMark ++ flaw.message
  | order => "invalid syntax"
  | missingComma => "invalid syntax. Perhaps you forgot a comma?"
  | missingElse => "expected 'else' after 'if' expression"
  | missingCall name =>
    "Missing parentheses in call to '" ++ name ++ "'. Did you mean " ++ name ++ "(...)?"
  | badAssignment target => "cannot use assignment expressions with " ++ target
  | assignmentForEquality => "invalid syntax. Maybe you meant '==' or ':=' instead of '='?"
  | equalityForAssignment target =>
    "cannot assign to " ++ target ++ " here. Maybe you meant '==' instead of '='?"
  | constantKey name => "cannot assign to " ++ name
  | expressionKey => "expression cannot contain assignment, perhaps you meant \"==\"?"
  | missingColon => "':' expected after dictionary key"
  | missingValue => "expression expected after dictionary key and ':'"
  | starredValue => "cannot use a starred expression in a dictionary value"
  | starredGroup => "cannot use starred expression here"
  | doublyStarredGroup => "cannot use double starred expression here"
  | starredGenerator => "iterable unpacking cannot be used in comprehension"
  | doublyStarredGenerator => "dict unpacking cannot be used in dict comprehension"
  | bareTarget => "did you forget parentheses around the comprehension target?"
  | badTarget target => "cannot assign to " ++ target
  | bareGenerator => "Generator expression must be parenthesized"
  | starAfterKeys => "iterable argument unpacking follows keyword argument unpacking"
  | argumentAfterKey => "positional argument follows keyword argument"
  | argumentAfterKeys => "positional argument follows keyword argument unpacking"
  | missingDefault => "expected default value expression"
  | plainAfterDefault => "non-default argument follows default argument"
  | groupedParameters => "Lambda expression parameters cannot be parenthesized"
  | leadingSlash => "at least one argument must precede /"
  | secondSlash => "/ may appear only once"
  | slashAfterStar => "/ must be ahead of *"
  | missingSlashComma => "expected comma between / and *"
  | emptyStar => "named arguments must follow bare *"
  | starredDefault => "var-positional argument cannot have default value"
  | secondStar => "* argument may appear only once"
  | doublyStarredDefault => "var-keyword argument cannot have default value"
  | parameterAfterKeys => "arguments cannot follow var-keyword argument"

/-- Holds of a flaw that is found when a text is cut into tokens, and not by a reader of them. -/
def Flaw.isOfTokens : Flaw → Bool
  | openString _ | openLongString _ | badNumber _ | badDigit _ _ | leadingZeros | badCharacter _
  | unprintable _ | tooManyBrackets | unmatched _ | mismatched _ _ _ => true
  | _ => false

/-- The flaw of a string in which an expression between braces has some flaw. The reader of the
expression marks what it finds itself, so that a flaw is marked once. -/
def Flaw.inBraces (flaw : Flaw) : Flaw :=
  match flaw with
  | braced _ => flaw
  | _ => if flaw.isOfTokens then flaw else .braced flaw

/-- What keeps a text from being read that need not have a flaw. -/
inductive Limit where
  /-- The text holds the code point zero. -/
  | nul
  /-- The rules of the grammar lie one in another deeper than a reader goes. -/
  | nesting
  /-- The expressions lie one in another deeper than a tree holds them. -/
  | depth
  /-- A flaw lies before the column at which the text begins, so that its place cannot be told. -/
  | place

/-- The words of a limit. -/
def Limit.message : Limit → Text
  | nul => "source code string cannot contain null bytes"
  | nesting => ""
  | depth => "maximum recursion depth exceeded during ast construction"
  | place => "Negative size passed to PyUnicode_New"

/-- Why a text gives no tree. -/
inductive Failure where
  | flaw (flaw : Flaw)
  | limit (limit : Limit)

/-- The failure of a string in which an expression between braces gives no tree. -/
def Failure.inBraces : Failure → Failure
  | flaw f => .flaw f.inBraces
  | limit l => .limit l

end Polyglot.Literal
