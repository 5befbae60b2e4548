import PortRoster.Text.Property.Age
import PortRoster.Text.Property.Break
import PortRoster.Text.Property.Script.Shared

/-! # Names of properties

Sets of characters have names: a property that a character has or has not, a general category or a
script by itself, and the other properties together with a value. Case does not matter in a name,
nor do blanks, lines and dashes in it or the word in front that says that something is so. -/

namespace PortRoster.Text

/-- The characters that do not matter in a name. -/
def isFiller (c : Char) : Bool := c == ' ' || c == '_' || c == '-' || 0x80 ≤ c.toNat

/-- What matters in the rest of a name. -/
def lettersOfName (cs : List Char) : List Char := (cs.filter (!isFiller ·)).map Char.toLower

/-- What matters in a name. The word in front is kept where but a C follows, since that would be
another name. -/
def looseName (cs : List Char) : List Char :=
  match cs with
  | i :: s :: rest =>
    if i.toLower = 'i' && s.toLower = 's' then
      if lettersOfName rest = ['c'] then ['i', 's', 'c'] else lettersOfName rest
    else lettersOfName cs
  | _ => lettersOfName cs

/-- The name is among some names. -/
def isNamed (names : List String) (name : List Char) : Bool :=
  names.any fun n => looseName n.toList = looseName name

/-- Why a name is not that of a set. -/
inductive NameFault where
  | unknownProperty
  | unknownValue
  deriving DecidableEq, Repr

/-- A property that has a value for every character. -/
inductive ValuedProperty where
  | age
  | category
  | graphemeBreak
  | script
  | scriptUse
  | sentenceBreak
  | wordBreak
  deriving DecidableEq, Repr

/-- The names of ASCII, of all characters, and of those that are assigned. -/
def wholeSet? (name : List Char) : Option CharSet :=
  if isNamed ["any"] name then some (.ofRun (0, 0x10FFFF))
  else if isNamed ["ascii"] name then some (.ofRun (0, 0x7F))
  else if isNamed ["assigned"] name then some (Category.setOf Category.assigned)
  else none

/-- The characters of the category, or group of categories, with a name. -/
def categorySet? (name : List Char) : Option CharSet :=
  (wholeSet? name).or <|
    ((CategoryGroup.all.find? (isNamed ·.names name)).map CategoryGroup.set).or <|
      (Category.all.find? (isNamed ·.names name)).map Category.set

/-- The script with a name. -/
def Script.ofName? (name : List Char) : Option Script := Script.all.find? (isNamed ·.names name)

namespace ValuedProperty

/-- All properties with values. -/
def all : List ValuedProperty :=
  [age, category, graphemeBreak, script, scriptUse, sentenceBreak, wordBreak]

/-- The names of a property. -/
def names : ValuedProperty → List String
  | age => ["Age"]
  | category => ["gc", "General_Category"]
  | graphemeBreak => ["GCB", "Grapheme_Cluster_Break"]
  | script => ["sc", "Script"]
  | scriptUse => ["scx", "Script_Extensions"]
  | sentenceBreak => ["SB", "Sentence_Break"]
  | wordBreak => ["WB", "Word_Break"]

/-- The characters for which a property has the value with a name. A character has had every age
since the version that it came with. -/
def set? (p : ValuedProperty) (value : List Char) : Option CharSet :=
  match p with
  | age => (Age.all.findIdx? (isNamed ·.names value)).map fun i => Age.set (i + 1)
  | category => categorySet? value
  | graphemeBreak => (GraphemeBreak.all.find? (isNamed ·.names value)).map GraphemeBreak.set
  | script => (Script.ofName? value).map Script.set
  | scriptUse => (Script.ofName? value).map Script.usedSet
  | sentenceBreak => (SentenceBreak.all.find? (isNamed ·.names value)).map SentenceBreak.set
  | wordBreak => (WordBreak.all.find? (isNamed ·.names value)).map WordBreak.set

end ValuedProperty

/-- The names of properties of which no values are known. -/
def furtherProperties : List String :=
  ["kAccountingNumeric", "cjkAccountingNumeric", "kOtherNumeric", "cjkOtherNumeric",
    "kPrimaryNumeric", "cjkPrimaryNumeric", "nv", "Numeric_Value", "bmg", "Bidi_Mirroring_Glyph",
    "bpb", "Bidi_Paired_Bracket", "cf", "Case_Folding", "kCompatibilityVariant",
    "cjkCompatibilityVariant", "dm", "Decomposition_Mapping", "EqUIdeo",
    "Equivalent_Unified_Ideograph", "FC_NFKC", "FC_NFKC_Closure", "lc", "Lowercase_Mapping",
    "NFKC_CF", "NFKC_Casefold", "NFKC_SCF", "NFKC_Simple_Casefold", "scf", "sfc",
    "Simple_Case_Folding", "slc", "Simple_Lowercase_Mapping", "stc", "Simple_Titlecase_Mapping",
    "suc", "Simple_Uppercase_Mapping", "tc", "Titlecase_Mapping", "uc", "Uppercase_Mapping",
    "kIICore", "cjkIICore", "kIRG_GSource", "cjkIRG_GSource", "kIRG_HSource", "cjkIRG_HSource",
    "kIRG_JSource", "cjkIRG_JSource", "kIRG_KPSource", "cjkIRG_KPSource", "kIRG_KSource",
    "cjkIRG_KSource", "kIRG_MSource", "cjkIRG_MSource", "kIRG_SSource", "cjkIRG_SSource",
    "kIRG_TSource", "cjkIRG_TSource", "kIRG_UKSource", "cjkIRG_UKSource", "kIRG_USource",
    "cjkIRG_USource", "kIRG_VSource", "cjkIRG_VSource", "kRSUnicode", "cjkRSUnicode",
    "Unicode_Radical_Stroke", "URS", "isc", "ISO_Comment", "JSN", "Jamo_Short_Name", "kEH_Cat",
    "kEH_Core", "kEH_Desc", "kEH_Func", "kEH_FVal", "kEH_HG", "kEH_IFAO", "kEH_JSesh",
    "kEH_NoMirror", "kEH_NoRotate", "kEH_UniK", "na", "Name", "na1", "Unicode_1_Name",
    "Name_Alias", "blk", "Block", "bc", "Bidi_Class", "bpt", "Bidi_Paired_Bracket_Type", "ccc",
    "Canonical_Combining_Class", "dt", "Decomposition_Type", "ea", "East_Asian_Width", "hst",
    "Hangul_Syllable_Type", "InCB", "Indic_Conjunct_Break", "InPC", "Indic_Positional_Category",
    "InSC", "Indic_Syllabic_Category", "jg", "Joining_Group", "jt", "Joining_Type", "lb",
    "Line_Break", "NFC_QC", "NFC_Quick_Check", "NFD_QC", "NFD_Quick_Check", "NFKC_QC",
    "NFKC_Quick_Check", "NFKD_QC", "NFKD_Quick_Check", "nt", "Numeric_Type", "vo",
    "Vertical_Orientation", "CE", "Composition_Exclusion", "Comp_Ex", "Full_Composition_Exclusion",
    "CWKCF", "Changes_When_NFKC_Casefolded", "XO_NFC", "Expands_On_NFC", "XO_NFD",
    "Expands_On_NFD", "XO_NFKC", "Expands_On_NFKC", "XO_NFKD", "Expands_On_NFKD"]

/-- The names of values that no character has. -/
def emptyValues : List String :=
  ["Cs", "Surrogate", "Zzzz", "Unknown", "Hrkt", "Katakana_Or_Hiragana"]

namespace CharSet

/-- The set with a name: that of a property, a general category or a script. -/
def ofName (name : List Char) : Except NameFault CharSet :=
  match Property.all.find? (isNamed ·.names name) with
  | some p => .ok p.set
  | none =>
    match (categorySet? name).or ((Script.ofName? name).map Script.set) with
    | some s => .ok s
    | none => .error (if isNamed emptyValues name then .unknownValue else .unknownProperty)

/-- The set of the characters for which the property with a name has the value with another
name. -/
def ofValue (property value : List Char) : Except NameFault CharSet :=
  match ValuedProperty.all.find? (isNamed ·.names property) with
  | some p => (p.set? value).elim (.error .unknownValue) .ok
  | none =>
    if Property.all.any (isNamed ·.names property) || isNamed furtherProperties property then
      .error .unknownValue
    else .error .unknownProperty

end CharSet

end PortRoster.Text
