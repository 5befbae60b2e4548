import PortRoster.Text.Blank
import PortRoster.Text.Property.Category
import PortRoster.Text.Property.Table.Sign
import PortRoster.Text.Property.Table.Word

/-! # Properties of characters

A property is one that a character has or has not. Some properties are given by tables, the others
by rules over general categories and other properties. -/

namespace PortRoster.Text

/-- A property that a character has or has not. -/
inductive Property where
  | alphabetic
  | asciiHexDigit
  | bidiControl
  | bidiMirrored
  | caseIgnorable
  | cased
  | changesWhenCasefolded
  | changesWhenCasemapped
  | changesWhenLowercased
  | changesWhenTitlecased
  | changesWhenUppercased
  | dash
  | defaultIgnorable
  | deprecated
  | diacritic
  | emoji
  | emojiComponent
  | emojiModifier
  | emojiModifierBase
  | emojiPresentation
  | extendedPictographic
  | extender
  | graphemeBase
  | graphemeExtend
  | graphemeLink
  | hexDigit
  | hyphen
  | idCompatMathContinue
  | idCompatMathStart
  | idContinue
  | idStart
  | ideographic
  | idsBinaryOperator
  | idsTrinaryOperator
  | idsUnaryOperator
  | joinControl
  | logicalOrderException
  | lowercase
  | math
  | modifierCombiningMark
  | noncharacter
  | otherAlphabetic
  | otherDefaultIgnorable
  | otherGraphemeExtend
  | otherIdContinue
  | otherIdStart
  | otherLowercase
  | otherMath
  | otherUppercase
  | patternSyntax
  | patternWhiteSpace
  | prependedConcatenationMark
  | quotationMark
  | radical
  | regionalIndicator
  | sentenceTerminal
  | softDotted
  | terminalPunctuation
  | unifiedIdeograph
  | uppercase
  | variationSelector
  | whiteSpace
  | xidContinue
  | xidStart
  deriving DecidableEq, Repr

namespace Property

/-- All properties. -/
def all : List Property :=
  [alphabetic, asciiHexDigit, bidiControl, bidiMirrored, caseIgnorable, cased,
    changesWhenCasefolded, changesWhenCasemapped, changesWhenLowercased, changesWhenTitlecased,
    changesWhenUppercased, dash, defaultIgnorable, deprecated, diacritic, emoji, emojiComponent,
    emojiModifier, emojiModifierBase, emojiPresentation, extendedPictographic, extender,
    graphemeBase, graphemeExtend, graphemeLink, hexDigit, hyphen, idCompatMathContinue,
    idCompatMathStart, idContinue, idStart, ideographic, idsBinaryOperator, idsTrinaryOperator,
    idsUnaryOperator, joinControl, logicalOrderException, lowercase, math, modifierCombiningMark,
    noncharacter, otherAlphabetic, otherDefaultIgnorable, otherGraphemeExtend, otherIdContinue,
    otherIdStart, otherLowercase, otherMath, otherUppercase, patternSyntax, patternWhiteSpace,
    prependedConcatenationMark, quotationMark, radical, regionalIndicator, sentenceTerminal,
    softDotted, terminalPunctuation, unifiedIdeograph, uppercase, variationSelector, whiteSpace,
    xidContinue, xidStart]

/-- The names of a property: a short one and a long one, and further ones. -/
def names : Property → List String
  | alphabetic => ["Alpha", "Alphabetic"]
  | asciiHexDigit => ["AHex", "ASCII_Hex_Digit"]
  | bidiControl => ["Bidi_C", "Bidi_Control"]
  | bidiMirrored => ["Bidi_M", "Bidi_Mirrored"]
  | caseIgnorable => ["CI", "Case_Ignorable"]
  | cased => ["Cased"]
  | changesWhenCasefolded => ["CWCF", "Changes_When_Casefolded"]
  | changesWhenCasemapped => ["CWCM", "Changes_When_Casemapped"]
  | changesWhenLowercased => ["CWL", "Changes_When_Lowercased"]
  | changesWhenTitlecased => ["CWT", "Changes_When_Titlecased"]
  | changesWhenUppercased => ["CWU", "Changes_When_Uppercased"]
  | dash => ["Dash"]
  | defaultIgnorable => ["DI", "Default_Ignorable_Code_Point"]
  | deprecated => ["Dep", "Deprecated"]
  | diacritic => ["Dia", "Diacritic"]
  | emoji => ["Emoji"]
  | emojiComponent => ["EComp", "Emoji_Component"]
  | emojiModifier => ["EMod", "Emoji_Modifier"]
  | emojiModifierBase => ["EBase", "Emoji_Modifier_Base"]
  | emojiPresentation => ["EPres", "Emoji_Presentation"]
  | extendedPictographic => ["ExtPict", "Extended_Pictographic"]
  | extender => ["Ext", "Extender"]
  | graphemeBase => ["Gr_Base", "Grapheme_Base"]
  | graphemeExtend => ["Gr_Ext", "Grapheme_Extend"]
  | graphemeLink => ["Gr_Link", "Grapheme_Link"]
  | hexDigit => ["Hex", "Hex_Digit"]
  | hyphen => ["Hyphen"]
  | idCompatMathContinue => ["ID_Compat_Math_Continue"]
  | idCompatMathStart => ["ID_Compat_Math_Start"]
  | idContinue => ["IDC", "ID_Continue"]
  | idStart => ["IDS", "ID_Start"]
  | ideographic => ["Ideo", "Ideographic"]
  | idsBinaryOperator => ["IDSB", "IDS_Binary_Operator"]
  | idsTrinaryOperator => ["IDST", "IDS_Trinary_Operator"]
  | idsUnaryOperator => ["IDSU", "IDS_Unary_Operator"]
  | joinControl => ["Join_C", "Join_Control"]
  | logicalOrderException => ["LOE", "Logical_Order_Exception"]
  | lowercase => ["Lower", "Lowercase"]
  | math => ["Math"]
  | modifierCombiningMark => ["MCM", "Modifier_Combining_Mark"]
  | noncharacter => ["NChar", "Noncharacter_Code_Point"]
  | otherAlphabetic => ["OAlpha", "Other_Alphabetic"]
  | otherDefaultIgnorable => ["ODI", "Other_Default_Ignorable_Code_Point"]
  | otherGraphemeExtend => ["OGr_Ext", "Other_Grapheme_Extend"]
  | otherIdContinue => ["OIDC", "Other_ID_Continue"]
  | otherIdStart => ["OIDS", "Other_ID_Start"]
  | otherLowercase => ["OLower", "Other_Lowercase"]
  | otherMath => ["OMath", "Other_Math"]
  | otherUppercase => ["OUpper", "Other_Uppercase"]
  | patternSyntax => ["Pat_Syn", "Pattern_Syntax"]
  | patternWhiteSpace => ["Pat_WS", "Pattern_White_Space"]
  | prependedConcatenationMark => ["PCM", "Prepended_Concatenation_Mark"]
  | quotationMark => ["QMark", "Quotation_Mark"]
  | radical => ["Radical"]
  | regionalIndicator => ["RI", "Regional_Indicator"]
  | sentenceTerminal => ["STerm", "Sentence_Terminal"]
  | softDotted => ["SD", "Soft_Dotted"]
  | terminalPunctuation => ["Term", "Terminal_Punctuation"]
  | unifiedIdeograph => ["UIdeo", "Unified_Ideograph"]
  | uppercase => ["Upper", "Uppercase"]
  | variationSelector => ["VS", "Variation_Selector"]
  | whiteSpace => ["WSpace", "White_Space", "space"]
  | xidContinue => ["XIDC", "XID_Continue"]
  | xidStart => ["XIDS", "XID_Start"]

/-! ### Rules -/

/-- The digits and the first letters in both cases. -/
def asciiHexDigits : List Run := [(0x30, 0x39), (0x41, 0x46), (0x61, 0x66)]

/-- The wide forms of ASCII characters are at this distance behind them. -/
def wideDistance : Nat := 0xFEE0

/-- The characters that belong to other programs than those that show texts. -/
def annotations : List Run := [(0xFFF9, 0xFFFB), (0x13430, 0x13440)]

/-- The characters that have a property by its table alone. -/
def tableOf : Property → List Run
  | asciiHexDigit => asciiHexDigits
  | bidiControl => Table.bidiControls
  | bidiMirrored => Table.bidiMirrored
  | changesWhenLowercased =>
    Table.lowerings ++ Table.alternatingLowerings.flatMap everySecond
  | changesWhenUppercased =>
    Table.raisings ++ Table.alternatingRaisings.flatMap everySecond
  | dash => Table.dashSigns
  | deprecated => Table.deprecated
  | diacritic => Table.diacritics
  | emoji => Table.emoji
  | emojiComponent => Table.emojiComponents
  | emojiModifier => Table.emojiModifiers
  | emojiModifierBase => Table.emojiModifierBases
  | emojiPresentation => Table.emojiPresentations
  | extendedPictographic => Table.extendedPictographics
  | extender => Table.extenders
  | graphemeLink => Table.viramas
  | hexDigit => asciiHexDigits ++ asciiHexDigits.map fun r => (r.1 + wideDistance, r.2 + wideDistance)
  | hyphen => Table.hyphens
  | idCompatMathContinue => Table.compatibleMathContinues ++ Table.compatibleMathStarts
  | idCompatMathStart => Table.compatibleMathStarts
  | ideographic => Table.unifiedIdeographs ++ Table.otherIdeographs
  | idsBinaryOperator => Table.ideographPairings
  | idsTrinaryOperator => Table.ideographTriplings
  | idsUnaryOperator => Table.ideographChanges
  | joinControl => [(0x200C, 0x200D)]
  | logicalOrderException => Table.logicalOrderExceptions
  | modifierCombiningMark => Table.combiningModifiers
  | noncharacter => Table.noncharacters
  | otherAlphabetic => Table.otherAlphabetics
  | otherDefaultIgnorable => Table.otherDefaultIgnorables
  | otherGraphemeExtend => Table.otherGraphemeExtends
  | otherIdContinue => Table.otherIdContinues
  | otherIdStart => Table.otherIdStarts
  | otherLowercase => Table.otherLowercases
  | otherMath => Table.otherMaths
  | otherUppercase => Table.otherUppercases
  | patternSyntax => Table.patternSyntax
  | patternWhiteSpace => Table.patternWhiteSpace
  | prependedConcatenationMark => Table.prependedMarks
  | quotationMark => Table.quotationMarks
  | radical => Table.radicals
  | regionalIndicator => Table.regionalIndicators
  | sentenceTerminal => Table.sentenceTerminals
  | softDotted => Table.softDots
  | terminalPunctuation => Table.terminalPunctuation
  | unifiedIdeograph => Table.unifiedIdeographs
  | variationSelector => Table.variationSelectors
  | whiteSpace => blankRuns
  | _ => []

/-- The characters of a property that is given by its table. -/
def listed (p : Property) : CharSet := .ofRuns p.tableOf

/-- The characters of words: letters, numbers that are letters, and others. -/
def alphabeticSet : CharSet :=
  (CategoryGroup.letter.set.union Category.letterNumber.set).union otherAlphabetic.listed

/-- The lowercase letters and others. -/
def lowercaseSet : CharSet := Category.lowercaseLetter.set.union otherLowercase.listed

/-- The uppercase letters and others. -/
def uppercaseSet : CharSet := Category.uppercaseLetter.set.union otherUppercase.listed

/-- The characters that extend the one in front of them: marks that take no space, and others. -/
def graphemeExtendSet : CharSet :=
  (Category.setOf [.nonspacingMark, .enclosingMark]).union otherGraphemeExtend.listed

/-- The characters that a language may use for signs and blanks. -/
def patternSet : CharSet := patternSyntax.listed.union patternWhiteSpace.listed

/-- The characters that a name may begin with. -/
def idStartSet : CharSet :=
  ((CategoryGroup.letter.set.union Category.letterNumber.set).union otherIdStart.listed).diff
    patternSet

/-- The characters that a name may continue with. -/
def idContinueSet : CharSet :=
  idStartSet.union <|
    ((Category.setOf [.nonspacingMark, .spacingMark, .decimalNumber, .connectorPunctuation]).union
      otherIdContinue.listed).diff patternSet

/-- The characters that are not shown where they are not known. -/
def defaultIgnorableSet : CharSet :=
  (CharSet.unions [otherDefaultIgnorable.listed, Category.format.set,
      variationSelector.listed]).diff <|
    .unions [whiteSpace.listed, prependedConcatenationMark.listed, .ofRuns annotations]

/-- The characters that have a titlecase form: those with an uppercase one, some apart, and some
others. -/
def titlecasingSet : CharSet :=
  (changesWhenUppercased.listed.union (.ofRuns Table.titledAlone)).diff (.ofRuns Table.raisedAlone)

/-- The characters that stand by themselves: no controls, and none that extend others. -/
def graphemeBaseSet : CharSet :=
  (Category.setOf [.control, .format, .privateUse, .lineSeparator, .paragraphSeparator]
    |>.union Category.unassigned.set |>.union graphemeExtendSet).complement

/-- The characters that have a property. -/
def set : Property → CharSet
  | alphabetic => alphabeticSet
  | caseIgnorable =>
    (Category.setOf [.nonspacingMark, .enclosingMark, .format, .modifierLetter, .modifierSymbol])
      |>.union (.ofRuns Table.caseIgnorableSigns)
  | cased => CharSet.unions [lowercaseSet, uppercaseSet, Category.titlecaseLetter.set]
  | changesWhenCasefolded =>
    (changesWhenLowercased.listed.union (.ofRuns Table.foldedAlone)).diff
      (.ofRuns Table.loweredAlone)
  | changesWhenCasemapped =>
    .unions [changesWhenLowercased.listed, changesWhenUppercased.listed, titlecasingSet]
  | changesWhenTitlecased => titlecasingSet
  | defaultIgnorable => defaultIgnorableSet
  | graphemeBase => graphemeBaseSet
  | graphemeExtend => graphemeExtendSet
  | idContinue => idContinueSet
  | idStart => idStartSet
  | lowercase => lowercaseSet
  | math => Category.mathSymbol.set.union otherMath.listed
  | uppercase => uppercaseSet
  | xidContinue => idContinueSet.diff (.ofRuns Table.unstableContinues)
  | xidStart => idStartSet.diff (.ofRuns Table.unstableStarts)
  | p => p.listed

end Property

end PortRoster.Text
