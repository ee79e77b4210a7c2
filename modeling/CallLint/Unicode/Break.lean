import CallLint.Unicode.Composition

/-!
# Breaks in a text

The properties of characters that decide where a text is broken into the characters a reader sees,
into words and into sentences. Each value of one of them is kept as the formula that the standard
gives for it. A character that none of these formulas has is of the value `Other`, which is not
asked for.
-/

namespace CallLint.Unicode.Formula

/-- A carriage return. -/
def carriageReturn : Formula := .ranges [(0x0D, 0x0D)]

/-- A line feed. -/
def lineFeed : Formula := .ranges [(0x0A, 0x0A)]

/-- The mark that joins the characters on both its sides. -/
def joiner : Formula := .ranges [(0x200D, 0x200D)]

/-- The marks that extend the character a reader sees. -/
def graphemeBreakExtend : Formula := .union graphemeExtend (.listed "Emoji_Modifier")

/-- The marks that belong to the character behind them. -/
def graphemePrepend : Formula :=
  .union (.listed "Prepended_Concatenation_Mark")
    (.ranges
      [(0xD4E, 0xD4E), (0x111C2, 0x111C3), (0x113D1, 0x113D1), (0x1193F, 0x1193F),
       (0x11941, 0x11941), (0x11A84, 0x11A89), (0x11D46, 0x11D46), (0x11F02, 0x11F02)])

/-- The characters that are joined to nothing around them. -/
def graphemeControl : Formula :=
  .without
    (.union (.categories ["Zl", "Zp", "Cc", "Cf"])
      (.common (.categories ["Cn"]) (.listed "Default_Ignorable_Code_Point")))
    (.union (.union graphemeBreakExtend graphemePrepend)
      (.union (.union carriageReturn lineFeed) joiner))

/-- The marks with a width of their own that belong to the character before them. -/
def spacingMark : Formula :=
  .union (.ranges [(0xE33, 0xE33), (0xEB3, 0xEB3)])
    (.without (.categories ["Mc"])
      (.union graphemeBreakExtend
        (.ranges
          [(0x102B, 0x102C), (0x1038, 0x1038), (0x1062, 0x1064), (0x1067, 0x106D),
           (0x1083, 0x1083), (0x1087, 0x108C), (0x108F, 0x108F), (0x109A, 0x109C),
           (0x1A61, 0x1A61), (0x1A63, 0x1A64), (0xAA7B, 0xAA7B), (0xAA7D, 0xAA7D),
           (0x11720, 0x11721)])))

/-- The Hangul syllables without a final consonant: every twenty-eighth of all syllables. -/
def openSyllables : Formula :=
  .ranges ((List.range 399).map fun i => (0xAC00 + 28 * i, 0xAC00 + 28 * i))

/-- The marks that extend the character before them in a word. -/
def wordExtend : Formula := .union graphemeBreakExtend (.categories ["Mc"])

/-- The invisible characters that a word runs on through. -/
def wordFormat : Formula :=
  .without (.categories ["Cf"])
    (.union (.union wordExtend (.listed "Prepended_Concatenation_Mark"))
      (.union joiner (.ranges [(0x200B, 0x200B)])))

/-- The digits of all scripts and the marks written in front of a number. -/
def wordNumeric : Formula :=
  .union (.categories ["Nd"])
    (.union (.without (.listed "Prepended_Concatenation_Mark") (.ranges [(0x70F, 0x70F)]))
      (.ranges [(0x66B, 0x66B), (0x19DA, 0x19DA)]))

/-- The characters written like Katakana. -/
def katakana : Formula :=
  .union (.script "Katakana")
    (.ranges
      [(0x3031, 0x3035), (0x309B, 0x309C), (0x30A0, 0x30A0), (0x30FC, 0x30FC), (0xFF70, 0xFF70)])

/-- The Hebrew letters. -/
def hebrewLetter : Formula := .common (.script "Hebrew") (.categories ["Lo"])

/-- The letters of the scripts that put no space between words. -/
def unspaced : Formula :=
  ["Lao", "Myanmar", "Khmer", "Tai_Le", "New_Tai_Lue", "Tai_Tham", "Tai_Viet", "Ahom"].foldl
    (fun found name => .union found (.script name)) (.script "Thai")

/-- The letters that make up words, of the scripts that put spaces between words. -/
def wordLetter : Formula :=
  .without
    (.union alphabetic
      (.ranges
        [(0xB8, 0xB8), (0x2C2, 0x2C5), (0x2D2, 0x2D7), (0x2DE, 0x2DF), (0x2E5, 0x2EB),
         (0x2ED, 0x2ED), (0x2EF, 0x2FF), (0x55A, 0x55C), (0x55E, 0x55E), (0x58A, 0x58A),
         (0x5F3, 0x5F3), (0x70F, 0x70F), (0xA708, 0xA716), (0xA720, 0xA721), (0xA789, 0xA78A),
         (0xAB5B, 0xAB5B)]))
    (.union (.union (.union (.listed "Ideographic") (.script "Hiragana")) unspaced)
      (.union (.union katakana hebrewLetter) wordExtend))

/-- The marks that extend the character before them in a sentence. -/
def sentenceExtend : Formula := .union (.union graphemeExtend (.categories ["Mc"])) joiner

/-- The characters that part paragraphs. -/
def sentenceSeparator : Formula := .ranges [(0x85, 0x85), (0x2028, 0x2029)]

/-- The digits of all scripts, the marks in front of a number and those that part its digits. -/
def sentenceNumeric : Formula := .union wordNumeric (.ranges [(0x66C, 0x66C)])

/-- The letters in lower case, without those of the script whose capitals begin no sentence. -/
def sentenceLower : Formula :=
  .without lowercase (.union graphemeExtend (.ranges [(0x10D0, 0x10FA), (0x10FD, 0x10FF)]))

/-- The letters in upper case, without those that begin no sentence. -/
def sentenceUpper : Formula :=
  .without (.union uppercase (.categories ["Lt"])) (.ranges [(0x1C90, 0x1CBA), (0x1CBD, 0x1CBF)])

/-- The full stops, which end a sentence or an abbreviation. -/
def fullStop : Formula :=
  .ranges [(0x2E, 0x2E), (0x2024, 0x2024), (0xFE52, 0xFE52), (0xFF0E, 0xFF0E)]

end Formula

/-- The values of the property that breaks a text into the characters a reader sees. -/
def graphemeBreaks : List (List String × Formula) := [
  (["CN", "Control"], .graphemeControl),
  (["CR"], .carriageReturn),
  (["EX", "Extend"], .graphemeBreakExtend),
  (["L"], .ranges [(0x1100, 0x115F), (0xA960, 0xA97C)]),
  (["LF"], .lineFeed),
  (["LV"], .openSyllables),
  (["LVT"], .without (.ranges [(0xAC00, 0xD7A3)]) .openSyllables),
  (["PP", "Prepend"], .graphemePrepend),
  (["RI", "Regional_Indicator"], .listed "Regional_Indicator"),
  (["SM", "SpacingMark"], .spacingMark),
  (["T"], .ranges [(0x11A8, 0x11FF), (0xD7CB, 0xD7FB)]),
  (["V"],
    .ranges [(0x1160, 0x11A7), (0xD7B0, 0xD7C6), (0x16D63, 0x16D63), (0x16D67, 0x16D6A)]),
  (["ZWJ"], .joiner)]

/-- The values of the property that breaks a text into words. -/
def wordBreaks : List (List String × Formula) := [
  (["LE", "ALetter"], .wordLetter),
  (["CR"], .carriageReturn),
  (["DQ", "Double_Quote"], .ranges [(0x22, 0x22)]),
  (["Extend"], .wordExtend),
  (["EX", "ExtendNumLet"], .union (.categories ["Pc"]) (.ranges [(0x202F, 0x202F)])),
  (["FO", "Format"], .wordFormat),
  (["HL", "Hebrew_Letter"], .hebrewLetter),
  (["KA", "Katakana"], .katakana),
  (["LF"], .lineFeed),
  (["MB", "MidNumLet"],
    .ranges [(0x2E, 0x2E), (0x2018, 0x2019), (0x2024, 0x2024), (0xFE52, 0xFE52),
      (0xFF07, 0xFF07), (0xFF0E, 0xFF0E)]),
  (["ML", "MidLetter"],
    .ranges [(0x3A, 0x3A), (0xB7, 0xB7), (0x387, 0x387), (0x55F, 0x55F), (0x5F4, 0x5F4),
      (0x2027, 0x2027), (0xFE13, 0xFE13), (0xFE55, 0xFE55), (0xFF1A, 0xFF1A)]),
  (["MN", "MidNum"],
    .ranges [(0x2C, 0x2C), (0x3B, 0x3B), (0x37E, 0x37E), (0x589, 0x589), (0x60C, 0x60D),
      (0x66C, 0x66C), (0x7F8, 0x7F8), (0x2044, 0x2044), (0xFE50, 0xFE50), (0xFE54, 0xFE54),
      (0xFF0C, 0xFF0C), (0xFF1B, 0xFF1B)]),
  (["NL", "Newline"], .ranges [(0x0B, 0x0C), (0x85, 0x85), (0x2028, 0x2029)]),
  (["NU", "Numeric"], .wordNumeric),
  (["RI", "Regional_Indicator"], .listed "Regional_Indicator"),
  (["SQ", "Single_Quote"], .ranges [(0x27, 0x27)]),
  (["WSegSpace"],
    .without (.categories ["Zs"]) (.ranges [(0xA0, 0xA0), (0x2007, 0x2007), (0x202F, 0x202F)])),
  (["ZWJ"], .joiner)]

/-- The values of the property that breaks a text into sentences. -/
def sentenceBreaks : List (List String × Formula) := [
  (["AT", "ATerm"], .fullStop),
  (["CL", "Close"],
    .union (.categories ["Ps", "Pe", "Pi", "Pf"])
      (.ranges [(0x22, 0x22), (0x27, 0x27), (0x275B, 0x2760), (0x2E00, 0x2E01), (0x2E06, 0x2E08),
        (0x2E0B, 0x2E0B), (0x1F676, 0x1F678)])),
  (["CR"], .carriageReturn),
  (["EX", "Extend"], .sentenceExtend),
  (["FO", "Format"],
    .without (.categories ["Cf"]) (.union .sentenceExtend .sentenceNumeric)),
  (["LE", "OLetter"],
    .without (.union .alphabetic (.ranges [(0x5F3, 0x5F3)]))
      (.union (.union .sentenceLower .sentenceUpper) .sentenceExtend)),
  (["LF"], .lineFeed),
  (["LO", "Lower"], .sentenceLower),
  (["NU", "Numeric"], .sentenceNumeric),
  (["SC", "SContinue"],
    .ranges [(0x2C, 0x2D), (0x3A, 0x3B), (0x37E, 0x37E), (0x55D, 0x55D), (0x60C, 0x60D),
      (0x7F8, 0x7F8), (0x1802, 0x1802), (0x1808, 0x1808), (0x2013, 0x2014), (0x3001, 0x3001),
      (0xFE10, 0xFE11), (0xFE13, 0xFE14), (0xFE31, 0xFE32), (0xFE50, 0xFE51), (0xFE54, 0xFE55),
      (0xFE58, 0xFE58), (0xFE63, 0xFE63), (0xFF0C, 0xFF0D), (0xFF1A, 0xFF1B), (0xFF64, 0xFF64)]),
  (["SE", "Sep"], .sentenceSeparator),
  (["SP", "Sp"],
    .without (.listed "White_Space")
      (.union .sentenceSeparator (.union .carriageReturn .lineFeed))),
  (["ST", "STerm"], .without (.listed "Sentence_Terminal") .fullStop),
  (["UP", "Upper"], .sentenceUpper)]

end CallLint.Unicode
