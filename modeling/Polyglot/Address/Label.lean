import Polyglot.Address.Admissible
import Polyglot.Address.Punycode
import Polyglot.Text.Composition
import Polyglot.Text.Direction
import Polyglot.Text.Quoted
import Polyglot.Text.Word

/-! # Labels of host names

A host name is a sequence of labels with dots between them and perhaps one at the end. A label is
composed text of admissible code points that does not begin with a mark, and its hyphens and its
directions follow rules. A label beyond ASCII has a form in ASCII, which begins with a mark of its
own.
-/

namespace Polyglot

/-- What is wrong with a label or with a host name. Positions begin at one. -/
inductive HostFlaw where
  | nameTooLong
  | emptyLabel
  | noContent
  | endsInHyphen
  | unreadable
  | notComposed
  | innerHyphens
  | outerHyphen
  | startsWithMark
  | misplacedJoiner (c : CodePoint) (position : Nat) (label : Text)
  | misplaced (c : CodePoint) (position : Nat) (label : Text)
  | inadmissible (c : CodePoint) (position : Nat) (label : Text)
  | unknownDirection (position : Nat) (label : Text)
  | startsWithoutDirection (label : Text)
  | wrongDirection (isRightToLeft : Bool) (position : Nat)
  | mixedNumbers
  | endsWithoutDirection

namespace HostFlaw

/-- The number of a code point. -/
def pointName (c : CodePoint) : Text :=
  "U+" ++ Text.padLeft 4 '0' (Text.ofChars ((Nat.toDigits 16 c.val).map Char.toUpper))

/-- The words of a flaw. -/
def message : HostFlaw → Text
  | nameTooLong => "Domain too long"
  | emptyLabel => "Empty Label"
  | noContent => "Malformed A-label, no Punycode eligible content found"
  | endsInHyphen => "A-label must not end with a hyphen"
  | unreadable => "Invalid A-label"
  | notComposed => "Label must be in Normalization Form C"
  | innerHyphens => "Label has disallowed hyphens in 3rd and 4th position"
  | outerHyphen => "Label must not start or end with a hyphen"
  | startsWithMark => "Label begins with an illegal combining character"
  | misplacedJoiner c position label =>
    "Unknown codepoint adjacent to joiner " ++ pointName c ++ " at position " ++
      Text.ofNat position ++ " in " ++ Text.quoted label
  | misplaced c position label =>
    "Codepoint " ++ pointName c ++ " not allowed at position " ++ Text.ofNat position ++ " in " ++
      Text.quoted label
  | inadmissible c position label =>
    "Codepoint " ++ pointName c ++ " at position " ++ Text.ofNat position ++ " of " ++
      Text.quoted label ++ " not allowed"
  | unknownDirection position label =>
    "Unknown directionality in label " ++ Text.quoted label ++ " at position " ++
      Text.ofNat position
  | startsWithoutDirection label =>
    "First codepoint in label " ++ Text.quoted label ++ " must be directionality L, R or AL"
  | wrongDirection isRightToLeft position =>
    "Invalid direction for codepoint at position " ++ Text.ofNat position ++ " in a " ++
      (if isRightToLeft then "right-to-left" else "left-to-right" : Text) ++ " label"
  | mixedNumbers => "Can not mix numeral types in a right-to-left label"
  | endsWithoutDirection => "Label ends with illegal codepoint directionality"

end HostFlaw

namespace HostLabel

/-! ### Hyphens -/

/-- What is wrong with the hyphens of a label. -/
def hyphenFlaw? (label : Text) : Option HostFlaw :=
  if (label.drop 2).take 2 = "--" then some .innerHyphens
  else if label.head? = some '-' ∨ label.getLast? = some '-' then some .outerHyphen
  else none

/-! ### Code points and their neighbours -/

/-- The class of the mark that makes a letter of the scripts of India lose its vowel. -/
def viramaClass : Nat := 9

/-- Holds of a mark after which a joining sign may always stand. -/
def isVirama (c : CodePoint) : Bool := c.combiningClass == viramaClass

/-- Holds of what is assigned. -/
def isAssigned (c : CodePoint) : Bool := c.isPrintable || c.isJoiningSign

/-- Holds when a joining sign may stand between what is before it, the last one first, and what is
after it. -/
def admitsJoiner (c : CodePoint) (before after : Text) : Bool :=
  match before with
  | [] => false
  | previous :: _ =>
    isVirama previous ||
      (c == CodePoint.nonJoiner && isAssigned previous &&
        ((before.dropWhile CodePoint.isTransparent).head?.map CodePoint.joinsNext).getD false &&
        ((after.dropWhile CodePoint.isTransparent).head?.map CodePoint.joinsPrevious).getD false)

/-- The dot between two letters l. -/
def middleDot : CodePoint := 0xB7

/-- The mark before a Greek numeral. -/
def greekNumeralSign : CodePoint := 0x375

/-- The dot between words of Katakana. -/
def katakanaDot : CodePoint := 0x30FB

/-- The two marks of Hebrew after letters. -/
def isHebrewMark (c : CodePoint) : Bool := c.val == 0x5F3 || c.val == 0x5F4

/-- An Arabic digit. -/
def isArabicDigit (c : CodePoint) : Bool := 0x660 ≤ c.val && c.val ≤ 0x669

/-- An Arabic digit of the eastern shape. -/
def isEasternDigit (c : CodePoint) : Bool := 0x6F0 ≤ c.val && c.val ≤ 0x6F9

/-- The signs that are admitted only beside certain others. -/
def isConditional (c : CodePoint) : Bool :=
  c == middleDot || c == greekNumeralSign || c == katakanaDot || isHebrewMark c ||
    isArabicDigit c || isEasternDigit c

/-- Holds when such a sign may stand between what is before it, the last one first, and what is
after it. -/
def admitsSign (c : CodePoint) (before after : Text) : Bool :=
  if c = middleDot then before.head? = some 'l' ∧ after.head? = some 'l'
  else if c = greekNumeralSign then
    (after.head?.map (CodePoint.isWithin CodePoint.greekRanges)).getD false
  else if isHebrewMark c then
    (before.head?.map (CodePoint.isWithin CodePoint.hebrewRanges)).getD false
  else if c = katakanaDot then
    (before ++ after).any fun d => d != katakanaDot && d.isJapanese
  else if isArabicDigit c then !(before ++ after).any isEasternDigit
  else !(before ++ after).any isArabicDigit

/-- What is wrong with one code point of a label. -/
def pointFlaw? (label before : Text) (c : CodePoint) (after : Text) : Option HostFlaw :=
  let position := before.length + 1
  if c.isAdmissible then none
  else if c.isJoiningSign then
    if admitsJoiner c before after then none else some (.misplacedJoiner c position label)
  else if isConditional c then
    if admitsSign c before after then none else some (.misplaced c position label)
  else some (.inadmissible c position label)

/-- The first flaw of a code point after others, of which the last one comes first. -/
def pointsFlaw? (label before : Text) : Text → Option HostFlaw
  | [] => none
  | c :: after => (pointFlaw? label before c after).or (pointsFlaw? label (c :: before) after)

/-! ### Directions -/

/-- The directions that make a label one with two directions. -/
def isFromRight : Direction → Bool
  | .rightToLeft | .arabicLetter | .arabicNumber => true
  | _ => false

/-- Holds of a direction that a label of a given kind may hold. -/
def isAllowed (isRightToLeft : Bool) : Direction → Bool
  | .rightToLeft | .arabicLetter | .arabicNumber => isRightToLeft
  | .leftToRight => !isRightToLeft
  | _ => true

/-- Holds of a direction that a label of a given kind may end with. -/
def isEnding (isRightToLeft : Bool) : Direction → Bool
  | .rightToLeft | .arabicLetter | .arabicNumber => isRightToLeft
  | .leftToRight => !isRightToLeft
  | .europeanNumber => true
  | _ => false

/-- Holds of the two kinds of numbers. -/
def isNumber (d : Direction) : Bool := d == .arabicNumber || d == .europeanNumber

/-- What is wrong with directions of a label, given the position of the first one, the kind of
numbers before it, and whether the label may end before it. -/
def runFlaw? (isRightToLeft : Bool) (position : Nat) (number : Option Direction) (mayEnd : Bool) :
    List Direction → Option HostFlaw
  | [] => if mayEnd then none else some .endsWithoutDirection
  | d :: rest =>
    let mayEnd := isEnding isRightToLeft d || (d == .mark && mayEnd)
    if !isAllowed isRightToLeft d then some (.wrongDirection isRightToLeft position)
    else if isRightToLeft && isNumber d then
      if number.any (· ≠ d) then some .mixedNumbers
      else runFlaw? isRightToLeft (position + 1) (some d) mayEnd rest
    else runFlaw? isRightToLeft (position + 1) number mayEnd rest

/-- What is wrong with the directions of a label. Only a label with a direction from the right is
looked at. -/
def directionFlaw? (label : Text) : Option HostFlaw :=
  match label.findIdx? fun c => c.direction?.isNone with
  | some index => some (.unknownDirection (index + 1) label)
  | none =>
    let directions := label.filterMap CodePoint.direction?
    if !directions.any isFromRight then none
    else
      match directions.head? with
      | some .rightToLeft | some .arabicLetter => runFlaw? true 1 none false directions
      | some .leftToRight => runFlaw? false 1 none false directions
      | _ => some (.startsWithoutDirection label)

/-! ### Labels and names -/

/-- What is wrong with a label that is not in its ASCII form. -/
def flaw? (label : Text) : Option HostFlaw :=
  match label with
  | [] => some .emptyLabel
  | first :: _ =>
    if !Composition.isComposed label then some .notComposed
    else
      (hyphenFlaw? label).or <|
        if first.isMark then some .startsWithMark
        else (pointsFlaw? label [] label).or (directionFlaw? label)

/-- What the ASCII form of a label begins with. -/
def asciiMark : Text := "xn--"

/-- A code point of ASCII. -/
def isAscii (c : CodePoint) : Bool := c.val < 0x80

/-- What is wrong with a label in ASCII; one in the ASCII form of another is read first. -/
def asciiFlaw? (label : Text) : Option HostFlaw :=
  let label := Text.asciiLower label
  if asciiMark.isPrefixOf label then
    let content := label.drop asciiMark.length
    if content.isEmpty then some .noContent
    else if content.getLast? = some '-' then some .endsInHyphen
    else
      match Punycode.decode? content with
      | none => some .unreadable
      | some label => flaw? label
  else flaw? label

/-- The greatest length of a label in ASCII. -/
def lengthLimit : Nat := 63

/-- The ASCII form of a label, if it has one. -/
def toAscii? (label : Text) : Option Text :=
  let ascii := if label.all isAscii then label else asciiMark ++ Punycode.encode label
  let flaw := if label.all isAscii then asciiFlaw? label else flaw? label
  if flaw.isNone && ascii.length ≤ lengthLimit then some ascii else none

end HostLabel

namespace HostName

/-- The greatest length of a name, with a dot at its end or without one. -/
def lengthLimit (isDotted : Bool) : Nat := if isDotted then 254 else 253

/-- The dots that may stand between labels. -/
def isDot (c : CodePoint) : Bool :=
  c.val == 0x2E || c.val == 0x3002 || c.val == 0xFF0E || c.val == 0xFF61

/-- The labels of a name, and whether there is a dot at its end. -/
def labels (name : Text) : List Text × Bool :=
  let parts := name.splitOnP isDot
  if parts.getLast? = some [] then (parts.dropLast, true) else (parts, false)

/-- The form of a name in ASCII, if it has one. -/
def toAscii? (name : Text) : Option Text := do
  let (labels, isDotted) := labels name
  let ascii ← labels.mapM HostLabel.toAscii?
  let joined := Text.join "." (if isDotted then ascii ++ [[]] else ascii)
  if name.length ≤ lengthLimit true ∧ joined.length ≤ lengthLimit isDotted then some joined
  else none

/-- What is wrong with a name in its ASCII form. -/
def asciiFlaw? (name : Text) : Option HostFlaw :=
  if lengthLimit true < name.length then some .nameTooLong
  else (labels name).1.findSome? HostLabel.asciiFlaw?

end HostName

end Polyglot
