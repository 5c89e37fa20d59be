import Polyglot.Text.Blank

/-! # Composed text

A letter with a mark may be one code point or two, and two marks on a letter may stand in either
order. In composed text the marks after a letter stand in the order of their classes, marks of one
class as they were written, and every letter that can be joined with a mark after it is joined. A
text is composed when taking its letters apart, putting the marks in order and joining again changes
nothing. The syllables of Hangul are letters that are joined by a rule and not by a table.
-/

namespace Polyglot

namespace CodePoint

set_option maxRecDepth 8000 in
/-- The ranges of the marks that have a class other than zero, with that class. -/
def classRanges : List (Nat × Nat × Nat) :=
  [(0x300, 0x314, 230), (0x315, 0x315, 232), (0x316, 0x319, 220), (0x31A, 0x31A, 232),
  (0x31B, 0x31B, 216), (0x31C, 0x320, 220), (0x321, 0x322, 202), (0x323, 0x326, 220),
  (0x327, 0x328, 202), (0x329, 0x333, 220), (0x334, 0x338, 1), (0x339, 0x33C, 220),
  (0x33D, 0x344, 230), (0x345, 0x345, 240), (0x346, 0x346, 230), (0x347, 0x349, 220),
  (0x34A, 0x34C, 230), (0x34D, 0x34E, 220), (0x350, 0x352, 230), (0x353, 0x356, 220),
  (0x357, 0x357, 230), (0x358, 0x358, 232), (0x359, 0x35A, 220), (0x35B, 0x35B, 230),
  (0x35C, 0x35C, 233), (0x35D, 0x35E, 234), (0x35F, 0x35F, 233), (0x360, 0x361, 234),
  (0x362, 0x362, 233), (0x363, 0x36F, 230), (0x483, 0x487, 230), (0x591, 0x591, 220),
  (0x592, 0x595, 230), (0x596, 0x596, 220), (0x597, 0x599, 230), (0x59A, 0x59A, 222),
  (0x59B, 0x59B, 220), (0x59C, 0x5A1, 230), (0x5A2, 0x5A7, 220), (0x5A8, 0x5A9, 230),
  (0x5AA, 0x5AA, 220), (0x5AB, 0x5AC, 230), (0x5AD, 0x5AD, 222), (0x5AE, 0x5AE, 228),
  (0x5AF, 0x5AF, 230), (0x5B0, 0x5B0, 10), (0x5B1, 0x5B1, 11), (0x5B2, 0x5B2, 12),
  (0x5B3, 0x5B3, 13), (0x5B4, 0x5B4, 14), (0x5B5, 0x5B5, 15), (0x5B6, 0x5B6, 16),
  (0x5B7, 0x5B7, 17), (0x5B8, 0x5B8, 18), (0x5B9, 0x5BA, 19), (0x5BB, 0x5BB, 20),
  (0x5BC, 0x5BC, 21), (0x5BD, 0x5BD, 22), (0x5BF, 0x5BF, 23), (0x5C1, 0x5C1, 24),
  (0x5C2, 0x5C2, 25), (0x5C4, 0x5C4, 230), (0x5C5, 0x5C5, 220), (0x5C7, 0x5C7, 18),
  (0x610, 0x617, 230), (0x618, 0x618, 30), (0x619, 0x619, 31), (0x61A, 0x61A, 32),
  (0x64B, 0x64B, 27), (0x64C, 0x64C, 28), (0x64D, 0x64D, 29), (0x64E, 0x64E, 30),
  (0x64F, 0x64F, 31), (0x650, 0x650, 32), (0x651, 0x651, 33), (0x652, 0x652, 34),
  (0x653, 0x654, 230), (0x655, 0x656, 220), (0x657, 0x65B, 230), (0x65C, 0x65C, 220),
  (0x65D, 0x65E, 230), (0x65F, 0x65F, 220), (0x670, 0x670, 35), (0x6D6, 0x6DC, 230),
  (0x6DF, 0x6E2, 230), (0x6E3, 0x6E3, 220), (0x6E4, 0x6E4, 230), (0x6E7, 0x6E8, 230),
  (0x6EA, 0x6EA, 220), (0x6EB, 0x6EC, 230), (0x6ED, 0x6ED, 220), (0x711, 0x711, 36),
  (0x730, 0x730, 230), (0x731, 0x731, 220), (0x732, 0x733, 230), (0x734, 0x734, 220),
  (0x735, 0x736, 230), (0x737, 0x739, 220), (0x73A, 0x73A, 230), (0x73B, 0x73C, 220),
  (0x73D, 0x73D, 230), (0x73E, 0x73E, 220), (0x73F, 0x741, 230), (0x742, 0x742, 220),
  (0x743, 0x743, 230), (0x744, 0x744, 220), (0x745, 0x745, 230), (0x746, 0x746, 220),
  (0x747, 0x747, 230), (0x748, 0x748, 220), (0x749, 0x74A, 230), (0x7EB, 0x7F1, 230),
  (0x7F2, 0x7F2, 220), (0x7F3, 0x7F3, 230), (0x7FD, 0x7FD, 220), (0x816, 0x819, 230),
  (0x81B, 0x823, 230), (0x825, 0x827, 230), (0x829, 0x82D, 230), (0x859, 0x85B, 220),
  (0x898, 0x898, 230), (0x899, 0x89B, 220), (0x89C, 0x89F, 230), (0x8CA, 0x8CE, 230),
  (0x8CF, 0x8D3, 220), (0x8D4, 0x8E1, 230), (0x8E3, 0x8E3, 220), (0x8E4, 0x8E5, 230),
  (0x8E6, 0x8E6, 220), (0x8E7, 0x8E8, 230), (0x8E9, 0x8E9, 220), (0x8EA, 0x8EC, 230),
  (0x8ED, 0x8EF, 220), (0x8F0, 0x8F0, 27), (0x8F1, 0x8F1, 28), (0x8F2, 0x8F2, 29),
  (0x8F3, 0x8F5, 230), (0x8F6, 0x8F6, 220), (0x8F7, 0x8F8, 230), (0x8F9, 0x8FA, 220),
  (0x8FB, 0x8FF, 230), (0x93C, 0x93C, 7), (0x94D, 0x94D, 9), (0x951, 0x951, 230),
  (0x952, 0x952, 220), (0x953, 0x954, 230), (0x9BC, 0x9BC, 7), (0x9CD, 0x9CD, 9),
  (0x9FE, 0x9FE, 230), (0xA3C, 0xA3C, 7), (0xA4D, 0xA4D, 9), (0xABC, 0xABC, 7), (0xACD, 0xACD, 9),
  (0xB3C, 0xB3C, 7), (0xB4D, 0xB4D, 9), (0xBCD, 0xBCD, 9), (0xC3C, 0xC3C, 7), (0xC4D, 0xC4D, 9),
  (0xC55, 0xC55, 84), (0xC56, 0xC56, 91), (0xCBC, 0xCBC, 7), (0xCCD, 0xCCD, 9), (0xD3B, 0xD3C, 9),
  (0xD4D, 0xD4D, 9), (0xDCA, 0xDCA, 9), (0xE38, 0xE39, 103), (0xE3A, 0xE3A, 9), (0xE48, 0xE4B, 107),
  (0xEB8, 0xEB9, 118), (0xEBA, 0xEBA, 9), (0xEC8, 0xECB, 122), (0xF18, 0xF19, 220),
  (0xF35, 0xF35, 220), (0xF37, 0xF37, 220), (0xF39, 0xF39, 216), (0xF71, 0xF71, 129),
  (0xF72, 0xF72, 130), (0xF74, 0xF74, 132), (0xF7A, 0xF7D, 130), (0xF80, 0xF80, 130),
  (0xF82, 0xF83, 230), (0xF84, 0xF84, 9), (0xF86, 0xF87, 230), (0xFC6, 0xFC6, 220),
  (0x1037, 0x1037, 7), (0x1039, 0x103A, 9), (0x108D, 0x108D, 220), (0x135D, 0x135F, 230),
  (0x1714, 0x1715, 9), (0x1734, 0x1734, 9), (0x17D2, 0x17D2, 9), (0x17DD, 0x17DD, 230),
  (0x18A9, 0x18A9, 228), (0x1939, 0x1939, 222), (0x193A, 0x193A, 230), (0x193B, 0x193B, 220),
  (0x1A17, 0x1A17, 230), (0x1A18, 0x1A18, 220), (0x1A60, 0x1A60, 9), (0x1A75, 0x1A7C, 230),
  (0x1A7F, 0x1A7F, 220), (0x1AB0, 0x1AB4, 230), (0x1AB5, 0x1ABA, 220), (0x1ABB, 0x1ABC, 230),
  (0x1ABD, 0x1ABD, 220), (0x1ABF, 0x1AC0, 220), (0x1AC1, 0x1AC2, 230), (0x1AC3, 0x1AC4, 220),
  (0x1AC5, 0x1AC9, 230), (0x1ACA, 0x1ACA, 220), (0x1ACB, 0x1ACE, 230), (0x1B34, 0x1B34, 7),
  (0x1B44, 0x1B44, 9), (0x1B6B, 0x1B6B, 230), (0x1B6C, 0x1B6C, 220), (0x1B6D, 0x1B73, 230),
  (0x1BAA, 0x1BAB, 9), (0x1BE6, 0x1BE6, 7), (0x1BF2, 0x1BF3, 9), (0x1C37, 0x1C37, 7),
  (0x1CD0, 0x1CD2, 230), (0x1CD4, 0x1CD4, 1), (0x1CD5, 0x1CD9, 220), (0x1CDA, 0x1CDB, 230),
  (0x1CDC, 0x1CDF, 220), (0x1CE0, 0x1CE0, 230), (0x1CE2, 0x1CE8, 1), (0x1CED, 0x1CED, 220),
  (0x1CF4, 0x1CF4, 230), (0x1CF8, 0x1CF9, 230), (0x1DC0, 0x1DC1, 230), (0x1DC2, 0x1DC2, 220),
  (0x1DC3, 0x1DC9, 230), (0x1DCA, 0x1DCA, 220), (0x1DCB, 0x1DCC, 230), (0x1DCD, 0x1DCD, 234),
  (0x1DCE, 0x1DCE, 214), (0x1DCF, 0x1DCF, 220), (0x1DD0, 0x1DD0, 202), (0x1DD1, 0x1DF5, 230),
  (0x1DF6, 0x1DF6, 232), (0x1DF7, 0x1DF8, 228), (0x1DF9, 0x1DF9, 220), (0x1DFA, 0x1DFA, 218),
  (0x1DFB, 0x1DFB, 230), (0x1DFC, 0x1DFC, 233), (0x1DFD, 0x1DFD, 220), (0x1DFE, 0x1DFE, 230),
  (0x1DFF, 0x1DFF, 220), (0x20D0, 0x20D1, 230), (0x20D2, 0x20D3, 1), (0x20D4, 0x20D7, 230),
  (0x20D8, 0x20DA, 1), (0x20DB, 0x20DC, 230), (0x20E1, 0x20E1, 230), (0x20E5, 0x20E6, 1),
  (0x20E7, 0x20E7, 230), (0x20E8, 0x20E8, 220), (0x20E9, 0x20E9, 230), (0x20EA, 0x20EB, 1),
  (0x20EC, 0x20EF, 220), (0x20F0, 0x20F0, 230), (0x2CEF, 0x2CF1, 230), (0x2D7F, 0x2D7F, 9),
  (0x2DE0, 0x2DFF, 230), (0x302A, 0x302A, 218), (0x302B, 0x302B, 228), (0x302C, 0x302C, 232),
  (0x302D, 0x302D, 222), (0x302E, 0x302F, 224), (0x3099, 0x309A, 8), (0xA66F, 0xA66F, 230),
  (0xA674, 0xA67D, 230), (0xA69E, 0xA69F, 230), (0xA6F0, 0xA6F1, 230), (0xA806, 0xA806, 9),
  (0xA82C, 0xA82C, 9), (0xA8C4, 0xA8C4, 9), (0xA8E0, 0xA8F1, 230), (0xA92B, 0xA92D, 220),
  (0xA953, 0xA953, 9), (0xA9B3, 0xA9B3, 7), (0xA9C0, 0xA9C0, 9), (0xAAB0, 0xAAB0, 230),
  (0xAAB2, 0xAAB3, 230), (0xAAB4, 0xAAB4, 220), (0xAAB7, 0xAAB8, 230), (0xAABE, 0xAABF, 230),
  (0xAAC1, 0xAAC1, 230), (0xAAF6, 0xAAF6, 9), (0xABED, 0xABED, 9), (0xFB1E, 0xFB1E, 26),
  (0xFE20, 0xFE26, 230), (0xFE27, 0xFE2D, 220), (0xFE2E, 0xFE2F, 230), (0x101FD, 0x101FD, 220),
  (0x102E0, 0x102E0, 220), (0x10376, 0x1037A, 230), (0x10A0D, 0x10A0D, 220),
  (0x10A0F, 0x10A0F, 230), (0x10A38, 0x10A38, 230), (0x10A39, 0x10A39, 1), (0x10A3A, 0x10A3A, 220),
  (0x10A3F, 0x10A3F, 9), (0x10AE5, 0x10AE5, 230), (0x10AE6, 0x10AE6, 220), (0x10D24, 0x10D27, 230),
  (0x10EAB, 0x10EAC, 230), (0x10F46, 0x10F47, 220), (0x10F48, 0x10F4A, 230),
  (0x10F4B, 0x10F4B, 220), (0x10F4C, 0x10F4C, 230), (0x10F4D, 0x10F50, 220),
  (0x10F82, 0x10F82, 230), (0x10F83, 0x10F83, 220), (0x10F84, 0x10F84, 230),
  (0x10F85, 0x10F85, 220), (0x11046, 0x11046, 9), (0x11070, 0x11070, 9), (0x1107F, 0x1107F, 9),
  (0x110B9, 0x110B9, 9), (0x110BA, 0x110BA, 7), (0x11100, 0x11102, 230), (0x11133, 0x11134, 9),
  (0x11173, 0x11173, 7), (0x111C0, 0x111C0, 9), (0x111CA, 0x111CA, 7), (0x11235, 0x11235, 9),
  (0x11236, 0x11236, 7), (0x112E9, 0x112E9, 7), (0x112EA, 0x112EA, 9), (0x1133B, 0x1133C, 7),
  (0x1134D, 0x1134D, 9), (0x11366, 0x1136C, 230), (0x11370, 0x11374, 230), (0x11442, 0x11442, 9),
  (0x11446, 0x11446, 7), (0x1145E, 0x1145E, 230), (0x114C2, 0x114C2, 9), (0x114C3, 0x114C3, 7),
  (0x115BF, 0x115BF, 9), (0x115C0, 0x115C0, 7), (0x1163F, 0x1163F, 9), (0x116B6, 0x116B6, 9),
  (0x116B7, 0x116B7, 7), (0x1172B, 0x1172B, 9), (0x11839, 0x11839, 9), (0x1183A, 0x1183A, 7),
  (0x1193D, 0x1193E, 9), (0x11943, 0x11943, 7), (0x119E0, 0x119E0, 9), (0x11A34, 0x11A34, 9),
  (0x11A47, 0x11A47, 9), (0x11A99, 0x11A99, 9), (0x11C3F, 0x11C3F, 9), (0x11D42, 0x11D42, 7),
  (0x11D44, 0x11D45, 9), (0x11D97, 0x11D97, 9), (0x16AF0, 0x16AF4, 1), (0x16B30, 0x16B36, 230),
  (0x16FF0, 0x16FF1, 6), (0x1BC9E, 0x1BC9E, 1), (0x1D165, 0x1D166, 216), (0x1D167, 0x1D169, 1),
  (0x1D16D, 0x1D16D, 226), (0x1D16E, 0x1D172, 216), (0x1D17B, 0x1D182, 220),
  (0x1D185, 0x1D189, 230), (0x1D18A, 0x1D18B, 220), (0x1D1AA, 0x1D1AD, 230),
  (0x1D242, 0x1D244, 230), (0x1E000, 0x1E006, 230), (0x1E008, 0x1E018, 230),
  (0x1E01B, 0x1E021, 230), (0x1E023, 0x1E024, 230), (0x1E026, 0x1E02A, 230),
  (0x1E130, 0x1E136, 230), (0x1E2AE, 0x1E2AE, 230), (0x1E2EC, 0x1E2EF, 230),
  (0x1E8D0, 0x1E8D6, 220), (0x1E944, 0x1E949, 230), (0x1E94A, 0x1E94A, 7)]

/-- The class of a mark. Marks of different classes do not touch each other; class zero is that of
everything that marks cannot be moved across. -/
def combiningClass (c : CodePoint) : Nat :=
  ((classRanges.find? fun (low, high, _) => low ≤ c.val && c.val ≤ high).map fun r => r.2.2).getD 0

/-- The ranges of the code points that composed text never holds. -/
def uncomposedRanges : List (Nat × Nat) :=
  [(0x340, 0x341), (0x343, 0x344), (0x374, 0x374), (0x37E, 0x37E), (0x387, 0x387), (0x958, 0x95F),
  (0x9DC, 0x9DD), (0x9DF, 0x9DF), (0xA33, 0xA33), (0xA36, 0xA36), (0xA59, 0xA5B), (0xA5E, 0xA5E),
  (0xB5C, 0xB5D), (0xF43, 0xF43), (0xF4D, 0xF4D), (0xF52, 0xF52), (0xF57, 0xF57), (0xF5C, 0xF5C),
  (0xF69, 0xF69), (0xF73, 0xF73), (0xF75, 0xF76), (0xF78, 0xF78), (0xF81, 0xF81), (0xF93, 0xF93),
  (0xF9D, 0xF9D), (0xFA2, 0xFA2), (0xFA7, 0xFA7), (0xFAC, 0xFAC), (0xFB9, 0xFB9), (0x1F71, 0x1F71),
  (0x1F73, 0x1F73), (0x1F75, 0x1F75), (0x1F77, 0x1F77), (0x1F79, 0x1F79), (0x1F7B, 0x1F7B),
  (0x1F7D, 0x1F7D), (0x1FBB, 0x1FBB), (0x1FBE, 0x1FBE), (0x1FC9, 0x1FC9), (0x1FCB, 0x1FCB),
  (0x1FD3, 0x1FD3), (0x1FDB, 0x1FDB), (0x1FE3, 0x1FE3), (0x1FEB, 0x1FEB), (0x1FEE, 0x1FEF),
  (0x1FF9, 0x1FF9), (0x1FFB, 0x1FFB), (0x1FFD, 0x1FFD), (0x2000, 0x2001), (0x2126, 0x2126),
  (0x212A, 0x212B), (0x2329, 0x232A), (0x2ADC, 0x2ADC), (0xF900, 0xFA0D), (0xFA10, 0xFA10),
  (0xFA12, 0xFA12), (0xFA15, 0xFA1E), (0xFA20, 0xFA20), (0xFA22, 0xFA22), (0xFA25, 0xFA26),
  (0xFA2A, 0xFA6D), (0xFA70, 0xFAD9), (0xFB1D, 0xFB1D), (0xFB1F, 0xFB1F), (0xFB2A, 0xFB36),
  (0xFB38, 0xFB3C), (0xFB3E, 0xFB3E), (0xFB40, 0xFB41), (0xFB43, 0xFB44), (0xFB46, 0xFB4E),
  (0x1D15E, 0x1D164), (0x1D1BB, 0x1D1C0), (0x2F800, 0x2FA1D)]

end CodePoint

namespace Composition

/-- For every mark, or letter that counts as one, the letters before it that it is joined with: each
word is a letter alone and the same letter joined. -/
def joints : List (CodePoint × String) :=
  [(0x300, "AÀ EÈ IÌ OÒ UÙ aà eè iì oò uù ÜǛ üǜ NǸ nǹ ЕЀ ИЍ еѐ иѝ ĒḔ ēḕ ŌṐ ōṑ WẀ wẁ ÂẦ âầ ĂẰ ăằ ÊỀ
      êề ÔỒ ôồ ƠỜ ơờ ƯỪ ưừ YỲ yỳ ἀἂ ἁἃ ἈἊ ἉἋ ἐἒ ἑἓ ἘἚ ἙἛ ἠἢ ἡἣ ἨἪ ἩἫ ἰἲ ἱἳ ἸἺ ἹἻ ὀὂ ὁὃ ὈὊ ὉὋ ὐὒ ὑὓ
      ὙὛ ὠὢ ὡὣ ὨὪ ὩὫ αὰ εὲ ηὴ ιὶ οὸ υὺ ωὼ ΑᾺ ΕῈ ΗῊ ᾿῍ ϊῒ ΙῚ ῾῝ ϋῢ ΥῪ ¨῭ ΟῸ ΩῺ"),
    (0x301, "AÁ EÉ IÍ OÓ UÚ YÝ aá eé ií oó uú yý CĆ cć LĹ lĺ NŃ nń RŔ rŕ SŚ sś ZŹ zź ÜǗ üǘ GǴ gǵ ÅǺ
      åǻ ÆǼ æǽ ØǾ øǿ ¨΅ ΑΆ ΕΈ ΗΉ ΙΊ ΟΌ ΥΎ ΩΏ ϊΐ αά εέ ηή ιί ϋΰ οό υύ ωώ ϒϓ ГЃ КЌ гѓ кќ ÇḈ çḉ ĒḖ ēḗ
      ÏḮ ïḯ KḰ kḱ MḾ mḿ ÕṌ õṍ ŌṒ ōṓ PṔ pṕ ŨṸ ũṹ WẂ wẃ ÂẤ âấ ĂẮ ăắ ÊẾ êế ÔỐ ôố ƠỚ ơớ ƯỨ ưứ ἀἄ ἁἅ ἈἌ
      ἉἍ ἐἔ ἑἕ ἘἜ ἙἝ ἠἤ ἡἥ ἨἬ ἩἭ ἰἴ ἱἵ ἸἼ ἹἽ ὀὄ ὁὅ ὈὌ ὉὍ ὐὔ ὑὕ ὙὝ ὠὤ ὡὥ ὨὬ ὩὭ ᾿῎ ῾῞"),
    (0x302, "AÂ EÊ IÎ OÔ UÛ aâ eê iî oô uû CĈ cĉ GĜ gĝ HĤ hĥ JĴ jĵ SŜ sŝ WŴ wŵ YŶ yŷ ZẐ zẑ ẠẬ ạậ ẸỆ
      ẹệ ỌỘ ọộ"),
    (0x303, "AÃ NÑ OÕ aã nñ oõ IĨ iĩ UŨ uũ VṼ vṽ ÂẪ âẫ ĂẴ ăẵ EẼ eẽ ÊỄ êễ ÔỖ ôỗ ƠỠ ơỡ ƯỮ ưữ YỸ yỹ"),
    (0x304, "AĀ aā EĒ eē IĪ iī OŌ oō UŪ uū ÜǕ üǖ ÄǞ äǟ ȦǠ ȧǡ ÆǢ æǣ ǪǬ ǫǭ ÖȪ öȫ ÕȬ õȭ ȮȰ ȯȱ YȲ yȳ ИӢ
      иӣ УӮ уӯ GḠ gḡ ḶḸ ḷḹ ṚṜ ṛṝ αᾱ ΑᾹ ιῑ ΙῙ υῡ ΥῩ"),
    (0x306, "AĂ aă EĔ eĕ GĞ gğ IĬ iĭ OŎ oŏ UŬ uŭ УЎ ИЙ ий уў ЖӁ жӂ АӐ аӑ ЕӖ еӗ ȨḜ ȩḝ ẠẶ ạặ αᾰ ΑᾸ ιῐ
      ΙῘ υῠ ΥῨ"),
    (0x307, "CĊ cċ EĖ eė GĠ gġ Iİ ZŻ zż AȦ aȧ OȮ oȯ BḂ bḃ DḊ dḋ FḞ fḟ HḢ hḣ MṀ mṁ NṄ nṅ PṖ pṗ RṘ rṙ
      SṠ sṡ ŚṤ śṥ ŠṦ šṧ ṢṨ ṣṩ TṪ tṫ WẆ wẇ XẊ xẋ YẎ yẏ ſẛ"),
    (0x308, "AÄ EË IÏ OÖ UÜ aä eë iï oö uü yÿ YŸ ΙΪ ΥΫ ιϊ υϋ ϒϔ ЕЁ ІЇ её ії АӒ аӓ ӘӚ әӛ ЖӜ жӝ ЗӞ зӟ
      ИӤ иӥ ОӦ оӧ ӨӪ өӫ ЭӬ эӭ УӰ уӱ ЧӴ чӵ ЫӸ ыӹ HḦ hḧ ÕṎ õṏ ŪṺ ūṻ WẄ wẅ XẌ xẍ tẗ"),
    (0x309, "AẢ aả ÂẨ âẩ ĂẲ ăẳ EẺ eẻ ÊỂ êể IỈ iỉ OỎ oỏ ÔỔ ôổ ƠỞ ơở UỦ uủ ƯỬ ưử YỶ yỷ"),
    (0x30A, "AÅ aå UŮ uů wẘ yẙ"),
    (0x30B, "OŐ oő UŰ uű УӲ уӳ"),
    (0x30C, "CČ cč DĎ dď EĚ eě LĽ lľ NŇ nň RŘ rř SŠ sš TŤ tť ZŽ zž AǍ aǎ IǏ iǐ OǑ oǒ UǓ uǔ ÜǙ üǚ GǦ
      gǧ KǨ kǩ ƷǮ ʒǯ jǰ HȞ hȟ"),
    (0x30F, "AȀ aȁ EȄ eȅ IȈ iȉ OȌ oȍ RȐ rȑ UȔ uȕ ѴѶ ѵѷ"),
    (0x311, "AȂ aȃ EȆ eȇ IȊ iȋ OȎ oȏ RȒ rȓ UȖ uȗ"),
    (0x313, "αἀ ΑἈ εἐ ΕἘ ηἠ ΗἨ ιἰ ΙἸ οὀ ΟὈ υὐ ωὠ ΩὨ ρῤ"),
    (0x314, "αἁ ΑἉ εἑ ΕἙ ηἡ ΗἩ ιἱ ΙἹ οὁ ΟὉ υὑ ΥὙ ωὡ ΩὩ ρῥ ΡῬ"),
    (0x31B, "OƠ oơ UƯ uư"),
    (0x323, "BḄ bḅ DḌ dḍ HḤ hḥ KḲ kḳ LḶ lḷ MṂ mṃ NṆ nṇ RṚ rṛ SṢ sṣ TṬ tṭ VṾ vṿ WẈ wẉ ZẒ zẓ AẠ aạ EẸ
      eẹ IỊ iị OỌ oọ ƠỢ ơợ UỤ uụ ƯỰ ưự YỴ yỵ"),
    (0x324, "UṲ uṳ"),
    (0x325, "AḀ aḁ"),
    (0x326, "SȘ sș TȚ tț"),
    (0x327, "CÇ cç GĢ gģ KĶ kķ LĻ lļ NŅ nņ RŖ rŗ SŞ sş TŢ tţ EȨ eȩ DḐ dḑ HḨ hḩ"),
    (0x328, "AĄ aą EĘ eę IĮ iį UŲ uų OǪ oǫ"),
    (0x32D, "DḒ dḓ EḘ eḙ LḼ lḽ NṊ nṋ TṰ tṱ UṶ uṷ"),
    (0x32E, "HḪ hḫ"),
    (0x330, "EḚ eḛ IḬ iḭ UṴ uṵ"),
    (0x331, "BḆ bḇ DḎ dḏ KḴ kḵ LḺ lḻ NṈ nṉ RṞ rṟ TṮ tṯ ZẔ zẕ hẖ"),
    (0x338, "←↚ →↛ ↔↮ ⇐⇍ ⇔⇎ ⇒⇏ ∃∄ ∈∉ ∋∌ ∣∤ ∥∦ ∼≁ ≃≄ ≅≇ ≈≉ =≠ ≡≢ ≍≭ <≮ >≯ ≤≰ ≥≱ ≲≴ ≳≵ ≶≸ ≷≹ ≺⊀ ≻⊁ ⊂⊄
      ⊃⊅ ⊆⊈ ⊇⊉ ⊢⊬ ⊨⊭ ⊩⊮ ⊫⊯ ≼⋠ ≽⋡ ⊑⋢ ⊒⋣ ⊲⋪ ⊳⋫ ⊴⋬ ⊵⋭"),
    (0x342, "ἀἆ ἁἇ ἈἎ ἉἏ ἠἦ ἡἧ ἨἮ ἩἯ ἰἶ ἱἷ ἸἾ ἹἿ ὐὖ ὑὗ ὙὟ ὠὦ ὡὧ ὨὮ ὩὯ αᾶ ¨῁ ηῆ ᾿῏ ιῖ ϊῗ ῾῟ υῦ ϋῧ
      ωῶ"),
    (0x345, "ἀᾀ ἁᾁ ἂᾂ ἃᾃ ἄᾄ ἅᾅ ἆᾆ ἇᾇ Ἀᾈ Ἁᾉ Ἂᾊ Ἃᾋ Ἄᾌ Ἅᾍ Ἆᾎ Ἇᾏ ἠᾐ ἡᾑ ἢᾒ ἣᾓ ἤᾔ ἥᾕ ἦᾖ ἧᾗ Ἠᾘ Ἡᾙ Ἢᾚ Ἣᾛ Ἤᾜ
      Ἥᾝ Ἦᾞ Ἧᾟ ὠᾠ ὡᾡ ὢᾢ ὣᾣ ὤᾤ ὥᾥ ὦᾦ ὧᾧ Ὠᾨ Ὡᾩ Ὢᾪ Ὣᾫ Ὤᾬ Ὥᾭ Ὦᾮ Ὧᾯ ὰᾲ αᾳ άᾴ ᾶᾷ Αᾼ ὴῂ ηῃ ήῄ ῆῇ Ηῌ ὼῲ ωῳ
      ώῴ ῶῷ Ωῼ"),
    (0x653, "اآ"),
    (0x654, "اأ وؤ يئ ەۀ ہۂ ےۓ"),
    (0x655, "اإ"),
    (0x93C, "नऩ रऱ ळऴ"),
    (0x9BE, "েো"),
    (0x9D7, "েৌ"),
    (0xB3E, "େୋ"),
    (0xB56, "େୈ"),
    (0xB57, "େୌ"),
    (0xBBE, "ெொ ேோ"),
    (0xBD7, "ஒஔ ெௌ"),
    (0xC56, "ెై"),
    (0xCC2, "ೆೊ"),
    (0xCD5, "ಿೀ ೆೇ ೊೋ"),
    (0xCD6, "ೆೈ"),
    (0xD3E, "െൊ േോ"),
    (0xD57, "െൌ"),
    (0xDCA, "ෙේ ොෝ"),
    (0xDCF, "ෙො"),
    (0xDDF, "ෙෞ"),
    (0x102E, "ဥဦ"),
    (0x1B35, "ᬅᬆ ᬇᬈ ᬉᬊ ᬋᬌ ᬍᬎ ᬑᬒ ᬺᬻ ᬼᬽ ᬾᭀ ᬿᭁ ᭂᭃ"),
    (0x3099, "かが きぎ くぐ けげ こご さざ しじ すず せぜ そぞ ただ ちぢ つづ てで とど はば ひび ふぶ へべ ほぼ うゔ ゝゞ カガ キギ クグ ケゲ コゴ サザ
      シジ スズ セゼ ソゾ タダ チヂ ツヅ テデ トド ハバ ヒビ フブ ヘベ ホボ ウヴ ワヷ ヰヸ ヱヹ ヲヺ ヽヾ"),
    (0x309A, "はぱ ひぴ ふぷ へぺ ほぽ ハパ ヒピ フプ ヘペ ホポ"),
    (0x110BA, "𑂙𑂚 𑂛𑂜 𑂥𑂫"),
    (0x11127, "𑄱𑄮 𑄲𑄯"),
    (0x1133E, "𑍇𑍋"),
    (0x11357, "𑍇𑍌"),
    (0x114B0, "𑒹𑒼"),
    (0x114BA, "𑒹𑒻"),
    (0x114BD, "𑒹𑒾"),
    (0x115AF, "𑖸𑖺 𑖹𑖻"),
    (0x11930, "𑤵𑤸")]

/-- A letter and a mark that are joined to one letter. -/
structure Joint where
  letter : CodePoint
  mark : CodePoint
  whole : CodePoint

/-- The joint of a mark that a word stands for. -/
def jointOf? (mark : CodePoint) : Text → Option Joint
  | [letter, whole] => some ⟨letter, mark, whole⟩
  | _ => none

/-- All joints of the table. -/
def table : List Joint :=
  joints.flatMap fun (mark, words) => (Text.words (Text.ofString words)).filterMap (jointOf? mark)

/-! ### Hangul -/

/-- The first syllable. -/
def firstSyllable : Nat := 0xAC00

/-- The first of the consonants that begin a syllable, and how many there are. -/
def leadBase : Nat := 0x1100

/-- The number of consonants that begin a syllable. -/
def leadCount : Nat := 19

/-- The first of the vowels. -/
def vowelBase : Nat := 0x1161

/-- The number of vowels. -/
def vowelCount : Nat := 21

/-- The code point before the consonants that end a syllable. -/
def tailBase : Nat := 0x11A7

/-- One more than the number of consonants that end a syllable. -/
def tailCount : Nat := 28

/-- The number of a syllable among all. -/
def syllable? (c : CodePoint) : Option Nat :=
  let index := c.val - firstSyllable
  if firstSyllable ≤ c.val && index < leadCount * vowelCount * tailCount then some index else none

/-- The parts of a syllable. -/
def syllableParts (index : Nat) : Text :=
  let pair := index / tailCount
  let tail := index % tailCount
  CodePoint.ofNat (leadBase + pair / vowelCount) ::
    CodePoint.ofNat (vowelBase + pair % vowelCount) ::
      if tail = 0 then [] else [CodePoint.ofNat (tailBase + tail)]

/-- The syllable of a consonant and a vowel, or of a syllable without an end and a consonant. -/
def joinedSyllable? (a b : CodePoint) : Option CodePoint :=
  let lead := a.val - leadBase
  let vowel := b.val - vowelBase
  let tail := b.val - tailBase
  if leadBase ≤ a.val && lead < leadCount && vowelBase ≤ b.val && vowel < vowelCount then
    some (CodePoint.ofNat (firstSyllable + (lead * vowelCount + vowel) * tailCount))
  else
    match syllable? a with
    | some index =>
      if index % tailCount = 0 && tailBase < b.val && tail < tailCount then
        some (CodePoint.ofNat (a.val + tail))
      else none
    | none => none

/-! ### Taking apart and joining -/

/-- The letter that two code points are joined to. -/
def joined? (a b : CodePoint) : Option CodePoint :=
  (joinedSyllable? a b).or <|
    (table.find? fun joint => joint.letter = a && joint.mark = b).map Joint.whole

/-- The greatest number of marks that are joined to one letter. -/
def depth : Nat := 4

/-- Takes a letter apart that is joined with at most so many marks. -/
def parts : Nat → CodePoint → Text
  | 0, c => [c]
  | n + 1, c =>
    match syllable? c, table.find? fun joint => joint.whole = c with
    | some index, _ => syllableParts index
    | none, some joint => parts n joint.letter ++ [joint.mark]
    | none, none => [c]

/-- Puts a code point behind others, of which the last one comes first; a mark is moved to the front
of the marks of greater classes. -/
def insertMark (c : CodePoint) : Text → Text
  | [] => [c]
  | d :: rest =>
    if c.combiningClass ≠ 0 ∧ c.combiningClass < d.combiningClass then d :: insertMark c rest
    else c :: d :: rest

/-- Puts the marks of a text in order. -/
def ordered (t : Text) : Text := (t.foldl (fun before c => insertMark c before) []).reverse

/-- Holds when a mark cannot be joined with the letter because of the marks that are kept between
them, the last one first. -/
def isBlocked (kept : Text) (c : CodePoint) : Bool :=
  match kept with
  | [] => false
  | d :: _ => c.combiningClass ≤ d.combiningClass

/-- Joins a letter with what follows it and the marks that are kept, the last one first. -/
def joinAfter (letter : CodePoint) (kept : Text) : Text → Text
  | [] => letter :: kept.reverse
  | c :: rest =>
    match if isBlocked kept c then none else joined? letter c with
    | some whole => joinAfter whole kept rest
    | none =>
      if c.combiningClass = 0 then letter :: (kept.reverse ++ joinAfter c [] rest)
      else joinAfter letter (c :: kept) rest

/-- Joins all letters of a text whose marks are in order. -/
def joinAll : Text → Text
  | [] => []
  | c :: rest => joinAfter c [] rest

/-- A text in composed form, provided that it holds none of the code points that are never in it. -/
def compose (t : Text) : Text := joinAll (ordered (t.flatMap (parts depth)))

/-- Holds of composed text. -/
def isComposed (t : Text) : Bool :=
  !t.any (CodePoint.isWithin CodePoint.uncomposedRanges) && compose t == t

end Composition

end Polyglot
