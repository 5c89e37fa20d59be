import Polyglot.Text.Joining
import Polyglot.Text.Printable

/-! # Directions

Letters are written from the left to the right or from the right to the left, and digits and signs
go with the letters around them in ways of their own. The directions here are those of letters,
marks, digits, the hyphen and the signs that join letters, which are all that a host name may hold.
The tables list ranges in increasing order, with both ends included.
-/

namespace Polyglot

/-- A class of code points that behave in one way where directions meet. -/
inductive Direction where
  | leftToRight
  | rightToLeft
  | arabicLetter
  | arabicNumber
  | europeanNumber
  | separator
  | mark
  | boundary
  | neutral
deriving DecidableEq

namespace CodePoint

/-- The ranges of the letters that are written from the right to the left, but for Arabic ones. -/
def rightToLeftRanges : List (Nat × Nat) :=
  [(0x5D0, 0x5EA), (0x5EF, 0x5F4), (0x7C0, 0x7EA), (0x7F4, 0x7F5), (0x800, 0x815), (0x81A, 0x81A),
  (0x824, 0x824), (0x828, 0x828), (0x840, 0x858), (0x10800, 0x10805), (0x10808, 0x10808),
  (0x1080A, 0x10835), (0x10837, 0x10838), (0x1083C, 0x1083C), (0x1083F, 0x10855),
  (0x10860, 0x10876), (0x10880, 0x1089E), (0x108E0, 0x108F2), (0x108F4, 0x108F5),
  (0x10900, 0x10915), (0x10920, 0x10939), (0x10980, 0x109B7), (0x109BE, 0x109BF),
  (0x10A00, 0x10A00), (0x10A10, 0x10A13), (0x10A15, 0x10A17), (0x10A19, 0x10A35),
  (0x10A60, 0x10A7C), (0x10A80, 0x10A9C), (0x10AC0, 0x10AC7), (0x10AC9, 0x10AE4),
  (0x10B00, 0x10B35), (0x10B40, 0x10B55), (0x10B60, 0x10B72), (0x10B80, 0x10B91),
  (0x10C00, 0x10C48), (0x10CC0, 0x10CF2), (0x10E80, 0x10EA9), (0x10EB0, 0x10EB1),
  (0x10F00, 0x10F1C), (0x10F27, 0x10F27), (0x10F70, 0x10F81), (0x10FB0, 0x10FC4),
  (0x10FE0, 0x10FF6), (0x1E800, 0x1E8C4), (0x1E922, 0x1E943), (0x1E94B, 0x1E94B),
  (0x1E950, 0x1E959)]

/-- The ranges of the letters that behave as those of Arabic. -/
def arabicLetterRanges : List (Nat × Nat) :=
  [(0x620, 0x63F), (0x641, 0x64A), (0x66E, 0x66F), (0x671, 0x674), (0x679, 0x6D3), (0x6D5, 0x6D5),
  (0x6E5, 0x6E6), (0x6EE, 0x6EF), (0x6FA, 0x6FF), (0x710, 0x710), (0x712, 0x72F), (0x74D, 0x7A5),
  (0x7B1, 0x7B1), (0x860, 0x86A), (0x870, 0x887), (0x889, 0x88E), (0x8A0, 0x8C9), (0xFE73, 0xFE73),
  (0x10D00, 0x10D23), (0x10F30, 0x10F45)]

/-- The ranges of the digits that behave as those of Arabic. -/
def arabicNumberRanges : List (Nat × Nat) := [(0x660, 0x669), (0x10D30, 0x10D39)]

/-- The ranges of the digits that behave as those of ASCII. -/
def europeanNumberRanges : List (Nat × Nat) := [(0x30, 0x39), (0x6F0, 0x6F9)]

/-- The ranges of the signs without a direction. -/
def neutralRanges : List (Nat × Nat) :=
  [(0xB7, 0xB7), (0x2B9, 0x2BA), (0x2C6, 0x2CF), (0x2EC, 0x2EC), (0x375, 0x375), (0x2E2F, 0x2E2F),
  (0x30FB, 0x30FB), (0xA67F, 0xA67F), (0xA717, 0xA71F), (0xA788, 0xA788)]

/-- Marks that count as letters where directions meet, although they are transparent. -/
def spacingRanges : List (Nat × Nat) :=
  [(0xCBF, 0xCBF), (0xCC6, 0xCC6), (0x11A07, 0x11A08), (0x11C3F, 0x11C3F)]

/-- A mark that is not transparent. -/
def heavyMark : CodePoint := 0x1171E

/-- Holds of a mark that takes the direction of what is before it. -/
def isDirectionlessMark (c : CodePoint) : Bool :=
  c == heavyMark || (isTransparent c && !isWithin spacingRanges c)

/-- The direction of a code point; one that is not assigned has none. -/
def direction? (c : CodePoint) : Option Direction :=
  if isJoiningSign c then some .boundary
  else if !isPrintable c then none
  else if c = ('-' : CodePoint) then some .separator
  else if isWithin europeanNumberRanges c then some .europeanNumber
  else if isWithin arabicNumberRanges c then some .arabicNumber
  else if isWithin rightToLeftRanges c then some .rightToLeft
  else if isWithin arabicLetterRanges c then some .arabicLetter
  else if isWithin neutralRanges c then some .neutral
  else if isDirectionlessMark c then some .mark
  else some .leftToRight

end CodePoint

end Polyglot
