import PortRoster.Text.Property.Category.Letter
import PortRoster.Text.Property.Category.Mark
import PortRoster.Text.Property.Category.Symbol

/-! # General categories

Every character belongs to one general category, and the categories form groups. A character that
is in no table is unassigned. -/

namespace PortRoster.Text

/-- What kind of character it is. -/
inductive Category where
  | uppercaseLetter
  | lowercaseLetter
  | titlecaseLetter
  | modifierLetter
  | otherLetter
  | nonspacingMark
  | spacingMark
  | enclosingMark
  | decimalNumber
  | letterNumber
  | otherNumber
  | connectorPunctuation
  | dashPunctuation
  | openPunctuation
  | closePunctuation
  | initialPunctuation
  | finalPunctuation
  | otherPunctuation
  | mathSymbol
  | currencySymbol
  | modifierSymbol
  | otherSymbol
  | spaceSeparator
  | lineSeparator
  | paragraphSeparator
  | control
  | format
  | privateUse
  | unassigned
  deriving DecidableEq, Repr

namespace Category

/-- The names of a category: its code of two letters, and longer ones. -/
def names : Category → List String
  | uppercaseLetter => ["Lu", "Uppercase_Letter"]
  | lowercaseLetter => ["Ll", "Lowercase_Letter"]
  | titlecaseLetter => ["Lt", "Titlecase_Letter"]
  | modifierLetter => ["Lm", "Modifier_Letter"]
  | otherLetter => ["Lo", "Other_Letter"]
  | nonspacingMark => ["Mn", "Nonspacing_Mark"]
  | spacingMark => ["Mc", "Spacing_Mark"]
  | enclosingMark => ["Me", "Enclosing_Mark"]
  | decimalNumber => ["Nd", "Decimal_Number", "digit"]
  | letterNumber => ["Nl", "Letter_Number"]
  | otherNumber => ["No", "Other_Number"]
  | connectorPunctuation => ["Pc", "Connector_Punctuation"]
  | dashPunctuation => ["Pd", "Dash_Punctuation"]
  | openPunctuation => ["Ps", "Open_Punctuation"]
  | closePunctuation => ["Pe", "Close_Punctuation"]
  | initialPunctuation => ["Pi", "Initial_Punctuation"]
  | finalPunctuation => ["Pf", "Final_Punctuation"]
  | otherPunctuation => ["Po", "Other_Punctuation"]
  | mathSymbol => ["Sm", "Math_Symbol"]
  | currencySymbol => ["Sc", "Currency_Symbol"]
  | modifierSymbol => ["Sk", "Modifier_Symbol"]
  | otherSymbol => ["So", "Other_Symbol"]
  | spaceSeparator => ["Zs", "Space_Separator"]
  | lineSeparator => ["Zl", "Line_Separator"]
  | paragraphSeparator => ["Zp", "Paragraph_Separator"]
  | control => ["Cc", "Control", "cntrl"]
  | format => ["Cf", "Format"]
  | privateUse => ["Co", "Private_Use"]
  | unassigned => ["Cn", "Unassigned"]

/-- All categories of assigned characters. -/
def assigned : List Category :=
  [uppercaseLetter, lowercaseLetter, titlecaseLetter, modifierLetter, otherLetter, nonspacingMark,
    spacingMark, enclosingMark, decimalNumber, letterNumber, otherNumber, connectorPunctuation,
    dashPunctuation, openPunctuation, closePunctuation, initialPunctuation, finalPunctuation,
    otherPunctuation, mathSymbol, currencySymbol, modifierSymbol, otherSymbol, spaceSeparator,
    lineSeparator, paragraphSeparator, control, format, privateUse]

/-- All categories. -/
def all : List Category := assigned ++ [unassigned]

/-- The runs of a category of assigned characters. -/
def runs : Category → List Run
  | uppercaseLetter => uppercaseLetters ++ alternatingUppercaseLetters.flatMap everySecond
  | lowercaseLetter => lowercaseLetters ++ alternatingLowercaseLetters.flatMap everySecond
  | titlecaseLetter => titlecaseLetters
  | modifierLetter => modifierLetters
  | otherLetter => otherLetters
  | nonspacingMark => nonspacingMarks
  | spacingMark => spacingMarks
  | enclosingMark => enclosingMarks
  | decimalNumber => decimalNumbers
  | letterNumber => letterNumbers
  | otherNumber => otherNumbers
  | connectorPunctuation => connectorPunctuations
  | dashPunctuation => dashes
  | openPunctuation => openBrackets
  | closePunctuation => closeBrackets
  | initialPunctuation => initialQuotes
  | finalPunctuation => finalQuotes
  | otherPunctuation => otherPunctuations
  | mathSymbol => mathSymbols
  | currencySymbol => currencySymbols
  | modifierSymbol => modifierSymbols
  | otherSymbol => otherSymbols
  | spaceSeparator => spaceSeparators
  | lineSeparator => lineSeparators
  | paragraphSeparator => paragraphSeparators
  | control => controls
  | format => formats
  | privateUse => privateUses
  | unassigned => []

/-- The characters of one of some categories of assigned characters. -/
def setOf (cs : List Category) : CharSet := .unions (cs.map fun c => .ofRuns c.runs)

/-- The characters of a category. -/
def set : Category → CharSet
  | unassigned => (setOf assigned).complement
  | c => .ofRuns c.runs

end Category

/-- A group of categories. -/
inductive CategoryGroup where
  | casedLetter
  | letter
  | mark
  | number
  | punctuation
  | symbol
  | separator
  | other
  deriving DecidableEq, Repr

namespace CategoryGroup

/-- The names of a group. -/
def names : CategoryGroup → List String
  | casedLetter => ["LC", "Cased_Letter"]
  | letter => ["L", "Letter"]
  | mark => ["M", "Mark", "Combining_Mark"]
  | number => ["N", "Number"]
  | punctuation => ["P", "Punctuation", "punct"]
  | symbol => ["S", "Symbol"]
  | separator => ["Z", "Separator"]
  | other => ["C", "Other"]

/-- All groups. -/
def all : List CategoryGroup :=
  [casedLetter, letter, mark, number, punctuation, symbol, separator, other]

/-- The categories of a group. -/
def categories : CategoryGroup → List Category
  | casedLetter => [.uppercaseLetter, .lowercaseLetter, .titlecaseLetter]
  | letter =>
    [.uppercaseLetter, .lowercaseLetter, .titlecaseLetter, .modifierLetter, .otherLetter]
  | mark => [.nonspacingMark, .spacingMark, .enclosingMark]
  | number => [.decimalNumber, .letterNumber, .otherNumber]
  | punctuation =>
    [.connectorPunctuation, .dashPunctuation, .openPunctuation, .closePunctuation,
      .initialPunctuation, .finalPunctuation, .otherPunctuation]
  | symbol => [.mathSymbol, .currencySymbol, .modifierSymbol, .otherSymbol]
  | separator => [.spaceSeparator, .lineSeparator, .paragraphSeparator]
  | other => [.control, .format, .privateUse, .unassigned]

/-- The characters of a group. -/
def set (g : CategoryGroup) : CharSet := .unions (g.categories.map Category.set)

end CategoryGroup

end PortRoster.Text
