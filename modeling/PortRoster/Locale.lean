/-! # Languages

The languages of the messages, and how one is chosen: by a text that names it, or by the settings of
the system.

* `ofText_tag`: the tag of a language names it. -/

namespace PortRoster

/-- A language of the messages. -/
inductive Locale where
  | en
  | zhCN
  deriving DecidableEq, Repr

namespace Locale

/-- All languages. -/
def all : List Locale := [en, zhCN]

/-- The tag of a language. -/
def tag : Locale → String
  | en => "en"
  | zhCN => "zh-CN"

/-- The language with exactly this tag. -/
def ofTag? (s : String) : Option Locale := all.find? (·.tag == s)

/-- The tag in a text: what stands before the first point, with dashes for underscores. -/
def tagIn (cs : List Char) : List Char :=
  (cs.takeWhile (· != '.')).map fun c => if c = '_' then '-' else c

/-- The primary subtag: what stands before the first dash, in small letters. The case of ASCII
letters is enough, since no other character has a letter of a known subtag as its small form. -/
def primary (tag : List Char) : List Char := (tag.takeWhile (· != '-')).map Char.toLower

/-- The language for a primary subtag. English stands in for every unknown language. -/
def ofPrimary (subtag : List Char) : Locale := if subtag = ['z', 'h'] then zhCN else en

/-- The language that a text such as `zh_CN.UTF-8` or `en-US` names: by its tag, or else by the
primary subtag. -/
def ofText (s : String) : Locale :=
  let tag := tagIn s.toList
  match ofTag? (String.ofList tag) with
  | some l => l
  | none => ofPrimary (primary tag)

/-- **The tag of a language names it.** -/
theorem ofText_tag (l : Locale) : ofText l.tag = l := by cases l <;> rfl

/-- The variables that name the language of the system, the strongest first. -/
def systemVariables : List String := ["LANGUAGE", "LC_ALL", "LC_MESSAGES", "LANG"]

/-- The first language in the value of a variable: what stands before a colon, without the encoding
after a point and the variant after an at sign. -/
def firstNamed (value : List Char) : List Char :=
  value.takeWhile fun c => c != ':' && c != '.' && c != '@'

/-- The language of the system, from its environment: the first one in the first variable that has a
value, even if it is an empty name. -/
def ofSystem (env : String → Option String) : Locale :=
  match systemVariables.findSome? fun name => (env name).filter (· ≠ "") with
  | some value => ofText (String.ofList (firstNamed value.toList))
  | none => en

end Locale

end PortRoster
