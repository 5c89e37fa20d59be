import Polyglot.Fault

/-! # Faults of logging

Why a log line cannot be written: the template of its message does not fit the arguments, or its
time has no calendar date. A level can be refused too.
-/

namespace Polyglot.Log

/-- Why a template does not fit its arguments. -/
inductive TemplateFlaw where
  | tooFewArguments
  | unusedArguments
  /-- The template ends inside a directive. -/
  | incomplete
  | incompleteKey
  /-- A directive has a key, and the argument is no object. -/
  | noMapping
  | missingKey (key : Text)
  | unknownDirective (letter : CodePoint) (position : Nat)
  | noNumber (letter : CodePoint) (kind : Text)
  | noInteger (letter : CodePoint) (kind : Text)
  | noDouble (kind : Text)
  | integer (fault : IntegerFault)
  /-- An integer is beyond the largest double. -/
  | integerTooLarge
  | noCharacter
  | characterOutOfRange
  /-- A width or a precision is to be an argument, which is no integer. -/
  | noAmount
  | widthTooLarge
  | precisionTooLarge
  | widthArgumentTooLarge
  | precisionArgumentTooLarge
  /-- An integer is to have more digits than a numeral may have. -/
  | tooManyDigits
  /-- A message would be longer than memory holds. -/
  | noRoom

/-- Why an instant has no calendar date. -/
inductive InstantFlaw where
  | yearOutOfRange (year : Int)
  /-- The year does not fit the calendar of the clock. -/
  | yearTooLarge
  /-- The seconds do not fit the clock. -/
  | beyondClock
  | notANumber

/-- Why a log line cannot be written or logging cannot be set up. -/
inductive Fault where
  | template (flaw : TemplateFlaw)
  | instant (flaw : InstantFlaw)
  | unknownLevel (shown : Text)
  /-- A level is a value of a kind that no level has. -/
  | badLevel (shown : Text)

/-- How a message shows a letter that no directive has. -/
def shownLetter (letter : CodePoint) : Text :=
  if 31 ≤ letter.val ∧ letter.val ≤ 126 then [letter] else "?"

/-- The words of a flaw of a template. -/
def TemplateFlaw.message : TemplateFlaw → Text
  | tooFewArguments => "not enough arguments for format string"
  | unusedArguments => "not all arguments converted during string formatting"
  | incomplete => "incomplete format"
  | incompleteKey => "incomplete format key"
  | noMapping => "format requires a mapping"
  | missingKey key => Text.quoted key
  | unknownDirective letter position =>
    "unsupported format character '" ++ shownLetter letter ++ "' (0x" ++ Text.hex 1 letter.val ++
      ") at index " ++ Text.ofNat position
  | noNumber letter kind =>
    "%" ++ [letter] ++ " format: a real number is required, not " ++ kind
  | noInteger letter kind => "%" ++ [letter] ++ " format: an integer is required, not " ++ kind
  | noDouble kind => "must be real number, not " ++ kind
  | integer fault => fault.message
  | integerTooLarge => "int too large to convert to float"
  | noCharacter => "%c requires int or char"
  | characterOutOfRange => "%c arg not in range(0x110000)"
  | noAmount => "* wants int"
  | widthTooLarge => "width too big"
  | precisionTooLarge => "precision too big"
  | widthArgumentTooLarge => "Python int too large to convert to C ssize_t"
  | precisionArgumentTooLarge => "Python int too large to convert to C int"
  | tooManyDigits => "precision too large"
  | noRoom => ""

/-- The words of a flaw of an instant. -/
def InstantFlaw.message : InstantFlaw → Text
  | yearOutOfRange year => "year " ++ Text.ofInt year ++ " is out of range"
  | yearTooLarge => "[Errno 75] Value too large for defined data type"
  | beyondClock => "timestamp out of range for platform time_t"
  | notANumber => "Invalid value NaN (not a number)"

/-- The words of a fault. -/
def Fault.message : Fault → Text
  | template flaw => flaw.message
  | instant flaw => flaw.message
  | unknownLevel shown => "Unknown level: " ++ shown
  | badLevel shown => "Level not an integer or a valid string: " ++ shown

end Polyglot.Log
