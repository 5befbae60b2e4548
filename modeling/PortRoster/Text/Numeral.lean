/-! # Numerals

Whole numbers written in a radix up to sixteen: reading with a bound, and writing in decimal and in
hexadecimal of fixed width.

Reading goes from left to right and stops at the first cause of failure, so that of two faults the
one further left is reported.

* `readUnsigned_decimal`: a number that is written in decimal is read back, if the bound allows it.
* `readUnsigned_hexadecimal`: so is one that is written in hexadecimal and fits in the width. -/

namespace PortRoster.Text

/-- Why a text is not a numeral below the bound. -/
inductive NumeralError where
  | empty
  | invalidDigit
  | tooLarge
  deriving DecidableEq, Repr

namespace NumeralError

/-- The wording of a failure. -/
def message : NumeralError → String
  | empty => "cannot parse integer from empty string"
  | invalidDigit => "invalid digit found in string"
  | tooLarge => "number too large to fit in target type"

end NumeralError

/-- The value of a character as a digit, letters in either case. -/
def digitValue (c : Char) : Option Nat :=
  if '0' ≤ c ∧ c ≤ '9' then some (c.toNat - '0'.toNat)
  else if 'a' ≤ c ∧ c ≤ 'f' then some (c.toNat - 'a'.toNat + 10)
  else if 'A' ≤ c ∧ c ≤ 'F' then some (c.toNat - 'A'.toNat + 10)
  else none

/-- The value of a character as a digit of a radix. -/
def digitOf (radix : Nat) (c : Char) : Option Nat :=
  (digitValue c).bind fun d => if d < radix then some d else none

/-- Appends digits to the number `n` read so far, as long as it stays below the bound. -/
def readDigits (radix bound : Nat) : Nat → List Char → Except NumeralError Nat
  | n, [] => .ok n
  | n, c :: cs =>
    match digitOf radix c with
    | none => .error .invalidDigit
    | some d =>
      if n * radix + d < bound then readDigits radix bound (n * radix + d) cs else .error .tooLarge

/-- Reads one or more digits below the bound, after a `+` that may be left out. -/
def readUnsigned (radix bound : Nat) : List Char → Except NumeralError Nat
  | [] => .error .empty
  | ['+'] => .error .invalidDigit
  | '+' :: cs => readDigits radix bound 0 cs
  | cs => readDigits radix bound 0 cs

/-- The bound of a 32-bit word. -/
def wordBound : Nat := 4294967296

/-- Reads a number that fits in 32 bits. -/
def readWord (radix : Nat) (cs : List Char) : Except NumeralError UInt32 :=
  (readUnsigned radix wordBound cs).map UInt32.ofNat

/-- The decimal digits of a number, with no zero in front unless it is all there is. -/
def decimal (n : Nat) : List Char := Nat.toDigits 10 n

/-- The decimal text of a number. -/
def decimalText (n : Nat) : String := String.ofList (decimal n)

/-- The character of a hexadecimal digit, letters in upper case. -/
def hexDigit (d : Nat) : Char :=
  if d < 10 then Char.ofNat ('0'.toNat + d) else Char.ofNat ('A'.toNat + (d - 10))

/-- The last `width` hexadecimal digits of a number. -/
def hexadecimal : (width : Nat) → Nat → List Char
  | 0, _ => []
  | width + 1, n => hexadecimal width (n / 16) ++ [hexDigit (n % 16)]

/-! ### Reading back what is written -/

theorem digitOf_digitChar {d : Nat} (h : d < 10) : digitOf 10 d.digitChar = some d := by
  have : ∀ d < 10, digitOf 10 d.digitChar = some d := by decide
  exact this d h

theorem digitOf_hexDigit {d : Nat} (h : d < 16) : digitOf 16 (hexDigit d) = some d := by
  have : ∀ d < 16, digitOf 16 (hexDigit d) = some d := by decide
  exact this d h

theorem readDigits_append (radix bound n : Nat) (cs ds : List Char) :
    readDigits radix bound n (cs ++ ds) =
      (readDigits radix bound n cs).bind fun m => readDigits radix bound m ds := by
  induction cs generalizing n with
  | nil => rfl
  | cons c cs ih =>
    simp only [List.cons_append, readDigits]
    split
    · rfl
    · split
      · exact ih _
      · rfl

theorem readDigits_concat {radix bound n m d : Nat} {cs : List Char} {c : Char}
    (h : readDigits radix bound n cs = .ok m) (hd : digitOf radix c = some d)
    (hb : m * radix + d < bound) :
    readDigits radix bound n (cs ++ [c]) = .ok (m * radix + d) := by
  rw [readDigits_append, h]
  simp [Except.bind, readDigits, hd, hb]

theorem readDigits_decimal {bound n : Nat} (h : n < bound) :
    readDigits 10 bound 0 (decimal n) = .ok n := by
  induction n using Nat.strongRecOn with
  | _ n ih =>
    have hm : n % 10 < 10 := Nat.mod_lt _ (by decide)
    have hd := digitOf_digitChar hm
    by_cases hn : n < 10
    · rw [decimal, Nat.toDigits_of_lt_base hn]
      rw [Nat.mod_eq_of_lt hn] at hd
      simp [readDigits, hd, h]
    · have hq : 0 < n / 10 := Nat.div_pos (Nat.le_of_not_lt hn) (by decide)
      have e : decimal n = decimal (n / 10) ++ [(n % 10).digitChar] := by
        rw [decimal, decimal, ← Nat.toDigits_of_lt_base hm,
          Nat.toDigits_append_toDigits (by decide) hq hm, Nat.div_add_mod]
      have hr := ih (n / 10) (by omega) (by omega)
      rw [e, readDigits_concat hr hd (by omega)]
      congr 1
      omega

theorem readDigits_hexadecimal {bound width n : Nat} (h : n < Nat.pow 16 width) (hb : n < bound) :
    readDigits 16 bound 0 (hexadecimal width n) = .ok n := by
  induction width generalizing n with
  | zero =>
    rw [Nat.lt_one_iff.1 h]
    rfl
  | succ width ih =>
    have hp : n < Nat.pow 16 width * 16 := h
    have hq : n / 16 < Nat.pow 16 width := by omega
    have hr := ih hq (by omega)
    rw [hexadecimal, readDigits_concat hr (digitOf_hexDigit (Nat.mod_lt _ (by decide))) (by omega)]
    congr 1
    omega

theorem readUnsigned_eq_readDigits {radix bound : Nat} {cs : List Char} (hne : cs ≠ [])
    (hs : '+' ∉ cs) : readUnsigned radix bound cs = readDigits radix bound 0 cs := by
  unfold readUnsigned
  split
  · exact absurd rfl hne
  · simp at hs
  · simp at hs
  · rfl

theorem decimal_ne_nil (n : Nat) : decimal n ≠ [] := Nat.toDigits_ne_nil

theorem not_plus_mem_decimal (n : Nat) : '+' ∉ decimal n := fun h => by
  have := Nat.isDigit_of_mem_toDigits (by decide) (by decide) h
  exact absurd this (by decide)

theorem not_plus_mem_hexadecimal (width n : Nat) : '+' ∉ hexadecimal width n := by
  induction width generalizing n with
  | zero => simp [hexadecimal]
  | succ width ih =>
    have hd : ∀ d < 16, '+' ≠ hexDigit d := by decide
    simp only [hexadecimal, List.mem_append, List.mem_singleton, not_or]
    exact ⟨ih _, hd _ (Nat.mod_lt _ (by decide))⟩

/-- **A number that is written in decimal is read back, if the bound allows it.** -/
theorem readUnsigned_decimal {bound n : Nat} (h : n < bound) :
    readUnsigned 10 bound (decimal n) = .ok n := by
  rw [readUnsigned_eq_readDigits (decimal_ne_nil n) (not_plus_mem_decimal n),
    readDigits_decimal h]

/-- **A number that is written in hexadecimal and fits in the width is read back.** -/
theorem readUnsigned_hexadecimal {bound width n : Nat} (h : n < Nat.pow 16 (width + 1)) (hb : n < bound) :
    readUnsigned 16 bound (hexadecimal (width + 1) n) = .ok n := by
  rw [readUnsigned_eq_readDigits (by simp [hexadecimal]) (not_plus_mem_hexadecimal _ n),
    readDigits_hexadecimal h hb]

theorem readWord_decimal (n : UInt32) : readWord 10 (decimal n.toNat) = .ok n := by
  have h : n.toNat < wordBound := n.toNat_lt
  simp [readWord, readUnsigned_decimal h, Except.map]

theorem readWord_hexadecimal (n : UInt32) : readWord 16 (hexadecimal 8 n.toNat) = .ok n := by
  have h : n.toNat < wordBound := n.toNat_lt
  have hw : n.toNat < Nat.pow 16 (7 + 1) := h
  simp [readWord, readUnsigned_hexadecimal hw h, Except.map]

end PortRoster.Text
