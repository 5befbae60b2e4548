import PortRoster.Text.Property.Basic
import PortRoster.Text.Property.Script

/-! # Breaks

Where a text may be broken between two characters, as the user sees them, between two words or
between two sentences, hangs on classes of the characters. Most classes are made by rules over
categories and properties. -/

namespace PortRoster.Text

/-- The characters of the script with a code. -/
def Script.setOfCode (code : String) : CharSet :=
  .unions ((Script.all.filter (·.names.head? = some code)).map fun s => .ofRuns s.runs)

/-- The carriage return. -/
def carriageReturn : CharSet := .single 0x0D

/-- The line feed. -/
def lineFeed : CharSet := .single 0x0A

/-- The character that joins two others. -/
def joiner : CharSet := .single 0x200D

/-- The character that keeps two others apart. -/
def nonJoiner : CharSet := .single 0x200C

/-! ### Characters as the user sees them -/

/-- A class of characters for breaks between characters as the user sees them. -/
inductive GraphemeBreak where
  | carriageReturn
  | control
  | extend
  | leadingConsonant
  | lineFeed
  | openSyllable
  | closedSyllable
  | prepend
  | regionalIndicator
  | spacingMark
  | trailingConsonant
  | vowel
  | joiner
  deriving DecidableEq, Repr

namespace GraphemeBreak

/-- All classes. -/
def all : List GraphemeBreak :=
  [carriageReturn, control, extend, leadingConsonant, lineFeed, openSyllable, closedSyllable,
    prepend, regionalIndicator, spacingMark, trailingConsonant, vowel, joiner]

/-- The names of a class. -/
def names : GraphemeBreak → List String
  | carriageReturn => ["CR"]
  | control => ["CN", "Control"]
  | extend => ["EX", "Extend"]
  | leadingConsonant => ["L"]
  | lineFeed => ["LF"]
  | openSyllable => ["LV"]
  | closedSyllable => ["LVT"]
  | prepend => ["PP", "Prepend"]
  | regionalIndicator => ["RI", "Regional_Indicator"]
  | spacingMark => ["SM", "SpacingMark"]
  | trailingConsonant => ["T"]
  | vowel => ["V"]
  | joiner => ["ZWJ"]

/-- The syllables of Hangul. -/
def syllables : CharSet := .ofRun (0xAC00, 0xD7A3)

/-- The syllables of Hangul that end with a vowel: one for each of the 19 consonants and 21 vowels,
in front of those with one of the 27 consonants behind it. -/
def openSyllables : CharSet :=
  .ofRuns ((List.range (19 * 21)).map fun i => (0xAC00 + 28 * i, 0xAC00 + 28 * i))

/-- The characters that are drawn in front of the one behind them. -/
def prepended : List Run :=
  [(0xD4E, 0xD4E), (0x111C2, 0x111C3), (0x113D1, 0x113D1), (0x1193F, 0x1193F), (0x11941, 0x11941),
   (0x11A3A, 0x11A3A), (0x11A84, 0x11A89), (0x11D46, 0x11D46), (0x11F02, 0x11F02)]

/-- The marks that take space and do not belong to the character in front of them. -/
def separateMarks : List Run :=
  [(0x102B, 0x102C), (0x1038, 0x1038), (0x1062, 0x1064), (0x1067, 0x106D), (0x1083, 0x1083),
   (0x1087, 0x108C), (0x108F, 0x108F), (0x109A, 0x109C), (0x1A61, 0x1A61), (0x1A63, 0x1A64),
   (0xAA7B, 0xAA7B), (0xAA7D, 0xAA7D), (0x11720, 0x11721)]

/-- The characters that extend the one in front of them, also by a colour. -/
def extendSet : CharSet := Property.graphemeExtendSet.union Property.emojiModifier.listed

/-- The characters of a class. -/
def set : GraphemeBreak → CharSet
  | carriageReturn => Text.carriageReturn
  | control =>
    (CharSet.unions [Category.setOf [.lineSeparator, .paragraphSeparator, .control, .format],
        Category.unassigned.set.inter Property.defaultIgnorableSet]).diff <|
      .unions [Text.carriageReturn, Text.lineFeed, nonJoiner, Text.joiner,
        Property.prependedConcatenationMark.listed, Property.graphemeExtendSet]
  | extend => extendSet
  | leadingConsonant => .ofRuns [(0x1100, 0x115F), (0xA960, 0xA97C)]
  | lineFeed => Text.lineFeed
  | openSyllable => openSyllables
  | closedSyllable => syllables.diff openSyllables
  | prepend => Property.prependedConcatenationMark.listed.union (.ofRuns prepended)
  | regionalIndicator => Property.regionalIndicator.listed
  | spacingMark =>
    (Category.spacingMark.set.diff (extendSet.union (.ofRuns separateMarks))).union <|
      .ofRuns [(0xE33, 0xE33), (0xEB3, 0xEB3)]
  | trailingConsonant => .ofRuns [(0x11A8, 0x11FF), (0xD7CB, 0xD7FB)]
  | vowel => .ofRuns [(0x1160, 0x11A7), (0xD7B0, 0xD7C6), (0x16D63, 0x16D63), (0x16D67, 0x16D6A)]
  | joiner => Text.joiner

end GraphemeBreak

/-! ### Words -/

/-- A class of characters for breaks between words. -/
inductive WordBreak where
  | letter
  | carriageReturn
  | doubleQuote
  | extend
  | extendNumber
  | format
  | hebrewLetter
  | katakana
  | lineFeed
  | midLetter
  | midNumber
  | midNumberLetter
  | newline
  | numeric
  | regionalIndicator
  | singleQuote
  | segmentSpace
  | joiner
  deriving DecidableEq, Repr

namespace WordBreak

/-- All classes. -/
def all : List WordBreak :=
  [letter, carriageReturn, doubleQuote, extend, extendNumber, format, hebrewLetter, katakana,
    lineFeed, midLetter, midNumber, midNumberLetter, newline, numeric, regionalIndicator,
    singleQuote, segmentSpace, joiner]

/-- The names of a class. -/
def names : WordBreak → List String
  | letter => ["LE", "ALetter"]
  | carriageReturn => ["CR"]
  | doubleQuote => ["DQ", "Double_Quote"]
  | extend => ["Extend"]
  | extendNumber => ["EX", "ExtendNumLet"]
  | format => ["FO", "Format"]
  | hebrewLetter => ["HL", "Hebrew_Letter"]
  | katakana => ["KA", "Katakana"]
  | lineFeed => ["LF"]
  | midLetter => ["ML", "MidLetter"]
  | midNumber => ["MN", "MidNum"]
  | midNumberLetter => ["MB", "MidNumLet"]
  | newline => ["NL", "Newline"]
  | numeric => ["NU", "Numeric"]
  | regionalIndicator => ["RI", "Regional_Indicator"]
  | singleQuote => ["SQ", "Single_Quote"]
  | segmentSpace => ["WSegSpace"]
  | joiner => ["ZWJ"]

/-- The characters of scripts whose words are not parted by blanks. -/
def unparted : List Run :=
  [(0xE01, 0xE3A), (0xE40, 0xE4E), (0xE81, 0xE82), (0xE84, 0xE84), (0xE86, 0xE8A), (0xE8C, 0xEA3),
   (0xEA5, 0xEA5), (0xEA7, 0xEBD), (0xEC0, 0xEC4), (0xEC6, 0xEC6), (0xEC8, 0xECE), (0xEDC, 0xEDF),
   (0x1000, 0x103F), (0x1050, 0x108F), (0x109A, 0x109F), (0x1780, 0x17D3), (0x17D7, 0x17D7),
   (0x17DC, 0x17DD), (0x1950, 0x196D), (0x1970, 0x1974), (0x1980, 0x19AB), (0x19B0, 0x19C9),
   (0x19DA, 0x19DA), (0x19DE, 0x19DF), (0x1A20, 0x1A5E), (0x1A60, 0x1A7C), (0x1AA0, 0x1AAD),
   (0xA9E0, 0xA9EF), (0xA9FA, 0xA9FE), (0xAA60, 0xAAC2), (0xAADB, 0xAADF), (0x11700, 0x1171A),
   (0x1171D, 0x1172B), (0x1173A, 0x1173B), (0x1173F, 0x11746)]

/-- The characters of words beside alphabetic ones. -/
def furtherLetters : List Run :=
  [(0x2C2, 0x2C5), (0x2D2, 0x2D7), (0x2DE, 0x2DF), (0x2E5, 0x2EB), (0x2ED, 0x2ED), (0x2EF, 0x2FF),
   (0x55A, 0x55C), (0x55E, 0x55E), (0x58A, 0x58A), (0x5F3, 0x5F3), (0x70F, 0x70F),
   (0xA708, 0xA716), (0xA720, 0xA721), (0xA789, 0xA78A), (0xAB5B, 0xAB5B)]

/-- The letters of Hebrew. -/
def hebrewLetters : CharSet := (Script.setOfCode "Hebr").inter Category.otherLetter.set

/-- The characters of Katakana, and those that are used with them. -/
def katakanas : CharSet :=
  (Script.setOfCode "Kana").union <|
    .ofRuns [(0x3031, 0x3035), (0x309B, 0x309C), (0x30A0, 0x30A0), (0x30FC, 0x30FC),
      (0xFF70, 0xFF70)]

/-- The characters that extend the one in front of them, also marks that take space. -/
def extendSet : CharSet :=
  (GraphemeBreak.extendSet.union Category.spacingMark.set).diff Text.joiner

/-- The marks in front of numbers, but not those in front of letters. -/
def numberMarks : CharSet := Property.prependedConcatenationMark.listed.diff (.single 0x70F)

/-- The characters of a class. -/
def set : WordBreak → CharSet
  | letter =>
    (Property.alphabeticSet.diff <|
      .unions [Property.ideographic.listed, katakanas, .ofRuns unparted, Script.setOfCode "Hira",
        extendSet, hebrewLetters]).union (.ofRuns furtherLetters)
  | carriageReturn => Text.carriageReturn
  | doubleQuote => .single 0x22
  | extend => extendSet
  | extendNumber => Category.connectorPunctuation.set.union (.single 0x202F)
  | format =>
    Category.format.set.diff <|
      .unions [.ofRun (0x200B, 0x200D), Property.graphemeExtendSet,
        Property.prependedConcatenationMark.listed]
  | hebrewLetter => hebrewLetters
  | katakana => katakanas
  | lineFeed => Text.lineFeed
  | midLetter =>
    .ofRuns [(0x3A, 0x3A), (0xB7, 0xB7), (0x387, 0x387), (0x55F, 0x55F), (0x5F4, 0x5F4),
      (0x2027, 0x2027), (0xFE13, 0xFE13), (0xFE55, 0xFE55), (0xFF1A, 0xFF1A)]
  | midNumber =>
    .ofRuns [(0x2C, 0x2C), (0x3B, 0x3B), (0x37E, 0x37E), (0x589, 0x589), (0x60C, 0x60D),
      (0x66C, 0x66C), (0x7F8, 0x7F8), (0x2044, 0x2044), (0xFE10, 0xFE10), (0xFE14, 0xFE14),
      (0xFE50, 0xFE50), (0xFE54, 0xFE54), (0xFF0C, 0xFF0C), (0xFF1B, 0xFF1B)]
  | midNumberLetter =>
    .ofRuns [(0x2E, 0x2E), (0x2018, 0x2019), (0x2024, 0x2024), (0xFE52, 0xFE52), (0xFF07, 0xFF07),
      (0xFF0E, 0xFF0E)]
  | newline => .ofRuns [(0x0B, 0x0C), (0x85, 0x85), (0x2028, 0x2029)]
  | numeric => .unions [Category.decimalNumber.set, .single 0x66B, numberMarks]
  | regionalIndicator => Property.regionalIndicator.listed
  | singleQuote => .single 0x27
  | segmentSpace =>
    Category.spaceSeparator.set.diff (.ofRuns [(0xA0, 0xA0), (0x2007, 0x2007), (0x202F, 0x202F)])
  | joiner => Text.joiner

end WordBreak

/-! ### Sentences -/

/-- A class of characters for breaks between sentences. -/
inductive SentenceBreak where
  | ambiguousEnd
  | close
  | carriageReturn
  | extend
  | format
  | otherLetter
  | lineFeed
  | lower
  | numeric
  | midSentence
  | separator
  | space
  | sentenceEnd
  | upper
  deriving DecidableEq, Repr

namespace SentenceBreak

/-- All classes. -/
def all : List SentenceBreak :=
  [ambiguousEnd, close, carriageReturn, extend, format, otherLetter, lineFeed, lower, numeric,
    midSentence, separator, space, sentenceEnd, upper]

/-- The names of a class. -/
def names : SentenceBreak → List String
  | ambiguousEnd => ["AT", "ATerm"]
  | close => ["CL", "Close"]
  | carriageReturn => ["CR"]
  | extend => ["EX", "Extend"]
  | format => ["FO", "Format"]
  | otherLetter => ["LE", "OLetter"]
  | lineFeed => ["LF"]
  | lower => ["LO", "Lower"]
  | numeric => ["NU", "Numeric"]
  | midSentence => ["SC", "SContinue"]
  | separator => ["SE", "Sep"]
  | space => ["SP", "Sp"]
  | sentenceEnd => ["ST", "STerm"]
  | upper => ["UP", "Upper"]

/-- The stops, which end a sentence or stand within one. -/
def stops : List Run := [(0x2E, 0x2E), (0x2024, 0x2024), (0xFE52, 0xFE52), (0xFF0E, 0xFF0E)]

/-- The quotation marks that are neither opening nor closing. -/
def plainQuotes : List Run :=
  [(0x22, 0x22), (0x27, 0x27), (0x275B, 0x2760), (0x2E00, 0x2E01), (0x2E06, 0x2E08),
   (0x2E0B, 0x2E0B), (0x1F676, 0x1F678)]

/-- The small letters of Georgian, which begin sentences, too. -/
def georgianLetters : List Run := [(0x10D0, 0x10FA), (0x10FD, 0x10FF)]

/-- The capital letters of Georgian, which are used for whole words. -/
def georgianCapitals : List Run := [(0x1C90, 0x1CBA), (0x1CBD, 0x1CBF)]

/-- The separators of lines and paragraphs. -/
def separators : CharSet := .ofRuns [(0x85, 0x85), (0x2028, 0x2029)]

/-- The characters that extend the one in front of them, also marks that take space. -/
def extendSet : CharSet :=
  .unions [Property.graphemeExtendSet, Category.spacingMark.set, Text.joiner]

/-- The lowercase characters. -/
def lowers : CharSet :=
  Property.lowercaseSet.diff (Property.graphemeExtendSet.union (.ofRuns georgianLetters))

/-- The characters of capitals. -/
def uppers : CharSet :=
  (Category.titlecaseLetter.set.union Property.uppercaseSet).diff (.ofRuns georgianCapitals)

/-- The characters of a class. -/
def set : SentenceBreak → CharSet
  | ambiguousEnd => .ofRuns stops
  | close =>
    (Category.setOf [.openPunctuation, .closePunctuation, .initialPunctuation,
      .finalPunctuation]).union (.ofRuns plainQuotes)
  | carriageReturn => Text.carriageReturn
  | extend => extendSet
  | format =>
    Category.format.set.diff <|
      .unions [nonJoiner, Text.joiner, Property.graphemeExtendSet,
        Property.prependedConcatenationMark.listed]
  | otherLetter =>
    (Property.alphabeticSet.union (.ofRuns [(0x5F3, 0x5F3), (0x70F, 0x70F)])).diff <|
      .unions [lowers, uppers, extendSet]
  | lineFeed => Text.lineFeed
  | lower => lowers
  | numeric =>
    .unions [Category.decimalNumber.set, .ofRun (0x66B, 0x66C), WordBreak.numberMarks]
  | midSentence =>
    .ofRuns [(0x2C, 0x2D), (0x3A, 0x3B), (0x37E, 0x37E), (0x55D, 0x55D), (0x60C, 0x60D),
      (0x7F8, 0x7F8), (0x1802, 0x1802), (0x1808, 0x1808), (0x2013, 0x2014), (0x3001, 0x3001),
      (0xFE10, 0xFE11), (0xFE13, 0xFE14), (0xFE31, 0xFE32), (0xFE50, 0xFE51), (0xFE54, 0xFE55),
      (0xFE58, 0xFE58), (0xFE63, 0xFE63), (0xFF0C, 0xFF0D), (0xFF1A, 0xFF1B), (0xFF64, 0xFF64)]
  | separator => separators
  | space =>
    Property.whiteSpace.listed.diff <| .unions [separators, Text.carriageReturn, Text.lineFeed]
  | sentenceEnd => Property.sentenceTerminal.listed.diff (.ofRuns stops)
  | upper => uppers

end SentenceBreak

end PortRoster.Text
