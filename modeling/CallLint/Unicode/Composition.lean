import CallLint.Unicode.Category
import CallLint.Unicode.Property
import CallLint.Unicode.Script

/-!
# Composed properties

Several properties of characters are put together from categories, scripts and other properties.
Each is kept as the formula that the standard gives for it, and worked out where it is asked for.
-/

namespace CallLint.Unicode

/-- How a set of characters is put together. -/
inductive Formula where
  /-- The characters of the categories with the given short names. -/
  | categories (shorts : List String)
  /-- The characters of a listed property. -/
  | listed (name : String)
  /-- The characters of a script. -/
  | script (name : String)
  /-- The characters in the given closed ranges. -/
  | ranges (rs : List (Nat × Nat))
  | union (a b : Formula)
  /-- The characters that both have. -/
  | common (a b : Formula)
  /-- The characters of the first that the second does not have. -/
  | without (a b : Formula)

namespace Formula

/-- The set of a table that has the name, spelled as it is there. -/
def member (table : List NamedSet) (name : String) : CharSet :=
  ((table.find? fun s => s.names.contains name).map NamedSet.set).getD .empty

/-- The set that a formula stands for. -/
def set : Formula → CharSet
  | .categories shorts =>
    (Unicode.categories.filter fun s => s.names.any (shorts.contains ·)).foldl
      (fun found s => found.union s.set) .empty
  | .listed name => member listedProperties name
  | .script name => member scripts name
  | .ranges rs => .ofRanges rs
  | .union a b => a.set.union b.set
  | .common a b => a.set.inter b.set
  | .without a b => a.set.diff b.set

/-- Letters in lower case, and what is written like them. -/
def lowercase : Formula := .union (.categories ["Ll"]) (.listed "Other_Lowercase")

/-- Letters in upper case, and what is written like them. -/
def uppercase : Formula := .union (.categories ["Lu"]) (.listed "Other_Uppercase")

/-- The characters that spell words. -/
def alphabetic : Formula :=
  .union (.union (.categories ["Lu", "Ll", "Lt", "Lm", "Lo", "Nl"]) (.listed "Other_Alphabetic"))
    (.union (.listed "Other_Lowercase") (.listed "Other_Uppercase"))

/-- The characters with a case. -/
def cased : Formula := .union (.union lowercase uppercase) (.categories ["Lt"])

/-- The characters that do not stand in the way of a change of case. -/
def caseIgnorable : Formula :=
  .union (.categories ["Mn", "Me", "Cf", "Lm", "Sk"])
    (.ranges
      [(0x27, 0x27), (0x2E, 0x2E), (0x3A, 0x3A), (0xB7, 0xB7), (0x387, 0x387), (0x55F, 0x55F),
       (0x5F4, 0x5F4), (0x2018, 0x2019), (0x2024, 0x2024), (0x2027, 0x2027), (0xFE13, 0xFE13),
       (0xFE52, 0xFE52), (0xFE55, 0xFE55), (0xFF07, 0xFF07), (0xFF0E, 0xFF0E), (0xFF1A, 0xFF1A)])

/-- The characters kept for patterns, white space included. -/
def patternOwn : Formula := .union (.listed "Pattern_Syntax") (.listed "Pattern_White_Space")

/-- The characters that may begin an identifier. -/
def identifierStart : Formula :=
  .union (.without (.categories ["Lu", "Ll", "Lt", "Lm", "Lo", "Nl"]) patternOwn)
    (.listed "Other_ID_Start")

/-- The characters that may stand in an identifier. -/
def identifierContinue : Formula :=
  .union
    (.without (.union identifierStart (.categories ["Mn", "Mc", "Nd", "Pc"])) patternOwn)
    (.listed "Other_ID_Continue")

/-- The characters that may begin an identifier in every normalization form. -/
def stableIdentifierStart : Formula :=
  .without identifierStart (.ranges
    [(0x37A, 0x37A), (0xE33, 0xE33), (0xEB3, 0xEB3), (0x309B, 0x309C), (0xFC5E, 0xFC63),
     (0xFDFA, 0xFDFB), (0xFE70, 0xFE70), (0xFE72, 0xFE72), (0xFE74, 0xFE74), (0xFE76, 0xFE76),
     (0xFE78, 0xFE78), (0xFE7A, 0xFE7A), (0xFE7C, 0xFE7C), (0xFE7E, 0xFE7E), (0xFF9E, 0xFF9F)])

/-- The characters that may stand in an identifier in every normalization form. -/
def stableIdentifierContinue : Formula :=
  .without identifierContinue (.ranges
    [(0x37A, 0x37A), (0x309B, 0x309C), (0xFC5E, 0xFC63), (0xFDFA, 0xFDFB), (0xFE70, 0xFE70),
     (0xFE72, 0xFE72), (0xFE74, 0xFE74), (0xFE76, 0xFE76), (0xFE78, 0xFE78), (0xFE7A, 0xFE7A),
     (0xFE7C, 0xFE7C), (0xFE7E, 0xFE7E)])

/-- The characters that extend the character before them. -/
def graphemeExtend : Formula :=
  .union (.categories ["Mn", "Me"]) (.listed "Other_Grapheme_Extend")

/-- The characters that others may extend. -/
def graphemeBase : Formula :=
  .without (.ranges [(0, 0xD7FF), (0xE000, CharSet.maxCode)])
    (.union (.categories ["Cc", "Cf", "Co", "Cn", "Zl", "Zp"]) graphemeExtend)

/-- The characters that some change of case changes. -/
def changesWhenCasemapped : Formula :=
  .union (.union (.listed "Changes_When_Lowercased") (.listed "Changes_When_Uppercased"))
    (.listed "Changes_When_Titlecased")

/-- The characters that words are made of, digits and marks included. -/
def word : Formula :=
  .union alphabetic (.union (.categories ["Mn", "Mc", "Me", "Nd", "Pc"]) (.listed "Join_Control"))

end Formula

/-- The binary properties that are put together from others, by their names. -/
def composedProperties : List (List String × Formula) := [
  (["Alpha", "Alphabetic"], .alphabetic),
  (["Cased"], .cased),
  (["CI", "Case_Ignorable"], .caseIgnorable),
  (["CWCM", "Changes_When_Casemapped"], .changesWhenCasemapped),
  (["Gr_Base", "Grapheme_Base"], .graphemeBase),
  (["Gr_Ext", "Grapheme_Extend"], .graphemeExtend),
  (["IDC", "ID_Continue"], .identifierContinue),
  (["IDS", "ID_Start"], .identifierStart),
  (["Lower", "Lowercase"], .lowercase),
  (["Math"], .union (.categories ["Sm"]) (.listed "Other_Math")),
  (["Upper", "Uppercase"], .uppercase),
  (["XIDC", "XID_Continue"], .stableIdentifierContinue),
  (["XIDS", "XID_Start"], .stableIdentifierStart)]

/-- The set of a table of formulas that goes by the given name, itself in loose form. -/
def composed? (table : List (List String × Formula)) (loose : Text) : Option CharSet :=
  (table.find? fun p => isCalled p.1 loose).map fun p => p.2.set

/-- The characters that words are made of. -/
def wordSet : CharSet := Formula.word.set

/-- The decimal digits of all scripts. -/
def digitSet : CharSet := (Formula.categories ["Nd"]).set

/-- White space. -/
def blankSet : CharSet := .ofRanges Text.blankRanges

/-- A character that spells words. -/
def isAlphabetic (c : Char) : Bool :=
  if c.toNat < 0x80 then c.isAlpha else Formula.alphabetic.set.contains c

/-- A number of any kind. -/
def isNumeric (c : Char) : Bool :=
  if c.toNat < 0x80 then c.isDigit
  else (Formula.categories ["Nd", "Nl", "No"]).set.contains c

/-- A character that words are made of. -/
def isWordChar (c : Char) : Bool :=
  if c.toNat < 0x80 then c.isAlphanum || c = '_' else wordSet.contains c

end CallLint.Unicode
