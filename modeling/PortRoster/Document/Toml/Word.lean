import PortRoster.Document.Data
import PortRoster.Text.Cut
import PortRoster.Text.Numeral

/-! # Words of TOML

A value that is not quoted or bracketed is a *word*: a truth value, a number, or a point in time.
A word is taken whole, so that each kind of word is a condition on all of its characters. -/

namespace PortRoster.Toml

/-- The characters that words are made of. -/
def isWordChar (c : Char) : Bool :=
  c.isAlphanum || c == '_' || c == '-' || c == '+' || c == '.' || c == ':'

/-! ### Numbers -/

/-- Digits without the underscores between them. An underscore stands between two digits. -/
def ungroup (isDigit : Char → Bool) : List Char → Option (List Char)
  | [] => none
  | [c] => if isDigit c then some [c] else none
  | c :: '_' :: cs => if isDigit c then (ungroup isDigit cs).map (c :: ·) else none
  | c :: cs => if isDigit c then (ungroup isDigit cs).map (c :: ·) else none

/-- A sign, if there is one, and what follows it. -/
def splitSign : List Char → Option Char × List Char
  | '+' :: cs => (some '+', cs)
  | '-' :: cs => (some '-', cs)
  | cs => (none, cs)

/-- The digits of a whole number, which has no zero in front unless it is all there is. -/
def whole? (cs : List Char) : Option (List Char) := do
  let ds ← ungroup Char.isDigit cs
  if ds.head? = some '0' ∧ ds ≠ ['0'] then none else some ds

/-- The number that digits of a radix denote. -/
def valueOf (radix : Nat) (ds : List Char) : Nat :=
  ds.foldl (fun n c => n * radix + (Text.digitValue c).getD 0) 0

/-- The number with a sign, if it fits in 64 bits. -/
def signed (sign : Option Char) (n : Nat) : Option Int :=
  if sign = some '-' then if n ≤ Nat.pow 2 63 then some (-(n : Int)) else none
  else if n < Nat.pow 2 63 then some n else none

/-- The number in a radix that is named by a letter after a zero. -/
def radix? (radix : Nat) (cs : List Char) : Option Int := do
  let ds ← ungroup (fun c => (Text.digitOf radix c).isSome) cs
  signed none (valueOf radix ds)

/-- Reads a word as a whole number. -/
def integer? : List Char → Option Int
  | '0' :: 'x' :: cs => radix? 16 cs
  | '0' :: 'o' :: cs => radix? 8 cs
  | '0' :: 'b' :: cs => radix? 2 cs
  | cs => do
    let (sign, cs) := splitSign cs
    let ds ← whole? cs
    signed sign (valueOf 10 ds)

/-- The number with the given digits and a power of ten is too large for a 64-bit float: it is not
below the middle between the largest float and the power of two after it. -/
def overflows (digits : List Char) (scale : Int) : Bool :=
  let n := valueOf 10 digits
  let magnitude := ((digits.dropWhile (· == '0')).length : Int) + scale
  if n = 0 ∨ magnitude < 300 then false
  else if 400 < magnitude then true
  else
    let bound := Nat.pow 2 1024 - Nat.pow 2 970
    let power := Nat.pow 10 scale.natAbs
    if 0 ≤ scale then bound ≤ n * power else bound * power ≤ n

/-- The exponent of a number: an `e` and a whole number that may begin with zeros. -/
def exponent? : List Char → Option Int
  | c :: cs =>
    if c = 'e' ∨ c = 'E' then do
      let (sign, cs) := splitSign cs
      let n := valueOf 10 (← ungroup Char.isDigit cs)
      some (if sign = some '-' then -(n : Int) else n)
    else none
  | [] => none

/-- A character of the digits of a number, with underscores between them. -/
def isMantissa (c : Char) : Bool := c.isDigit || c == '_'

/-- Reads a word as a number with a fraction, an exponent, or both. -/
def real? (word : List Char) : Option Data := do
  let (sign, cs) := splitSign word
  let ds ← whole? (cs.takeWhile isMantissa)
  let (fraction, scale) ← match cs.dropWhile isMantissa with
    | '.' :: cs => do
      let fs ← ungroup Char.isDigit (cs.takeWhile isMantissa)
      match cs.dropWhile isMantissa with
      | [] => some (fs, 0)
      | cs => do some (fs, ← exponent? cs)
    | cs => do some ([], ← exponent? cs)
  if sign ≠ some '-' ∧ overflows (ds ++ fraction) (scale - fraction.length) then none
  else some (.real (String.ofList word))

/-- Reads a word as one of the numbers without digits. -/
def special? (word : List Char) : Option Data :=
  let (_, cs) := splitSign word
  if cs = "inf".toList ∨ cs = "nan".toList then some (.real (String.ofList word)) else none

/-! ### Points in time -/

/-- The number that a given count of digits denotes. -/
def fixed? (count : Nat) (cs : List Char) : Option Nat :=
  if cs.length = count ∧ cs.all Char.isDigit then some (valueOf 10 cs) else none

/-- The number of days of a month. -/
def daysIn (year month : Nat) : Nat :=
  if month = 2 then
    if year % 4 = 0 ∧ (year % 100 ≠ 0 ∨ year % 400 = 0) then 29 else 28
  else if month = 4 ∨ month = 6 ∨ month = 9 ∨ month = 11 then 30
  else 31

/-- The text is a date of the calendar. -/
def isDate (cs : List Char) : Bool :=
  match (Text.cutAt '-' cs) with
  | [y, m, d] =>
    match fixed? 4 y, fixed? 2 m, fixed? 2 d with
    | some year, some month, some day =>
      1 ≤ month && month ≤ 12 && 1 ≤ day && day ≤ daysIn year month
    | _, _, _ => false
  | _ => false

/-- The text is a number of two digits up to a bound. -/
def isPart (bound : Nat) (cs : List Char) : Bool := (fixed? 2 cs).any (· ≤ bound)

/-- The text is a number of seconds, with a fraction if one follows. -/
def isSeconds (cs : List Char) : Bool :=
  isPart 60 (cs.take 2) &&
    match cs.drop 2 with
    | [] => true
    | '.' :: ds => !ds.isEmpty && ds.all Char.isDigit
    | _ => false

/-- The text is a time of day. -/
def isTime (cs : List Char) : Bool :=
  match Text.cutAt ':' cs with
  | [h, m, s] => isPart 23 h && isPart 59 m && isSeconds s
  | _ => false

/-- The text is a number of hours and minutes. -/
def isShift (cs : List Char) : Bool :=
  match Text.cutAt ':' cs with
  | [h, m] => isPart 23 h && isPart 59 m
  | _ => false

/-- The character begins the offset of a time. -/
def isOffsetMark (c : Char) : Bool := c == 'Z' || c == 'z' || c == '+' || c == '-'

/-- The text is a time of day, with the offset from universal time if one follows. -/
def isTimeWithOffset (cs : List Char) : Bool :=
  isTime (cs.takeWhile fun c => !isOffsetMark c) &&
    match cs.dropWhile fun c => !isOffsetMark c with
    | [] => true
    | c :: rest => if c = 'Z' ∨ c = 'z' then rest.isEmpty else isShift rest

/-- Reads a word as a point in time: a date, a time, or both with a `T` between them. -/
def moment? (word : List Char) : Option Data :=
  let isMoment := isDate word || isTime word ||
    (isDate (word.take 10) &&
      match word.drop 10 with
      | c :: time => (c == 'T' || c == 't') && isTimeWithOffset time
      | [] => false)
  if isMoment then some (.moment (String.ofList word)) else none

/-- Reads a word. -/
def word? (word : List Char) : Option Data :=
  if word = "true".toList then some (.boolean true)
  else if word = "false".toList then some (.boolean false)
  else (moment? word).or ((real? word).or ((special? word).or ((integer? word).map .integer)))

end PortRoster.Toml
