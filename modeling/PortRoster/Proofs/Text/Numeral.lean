import Mathlib.Data.List.Forall2
import Mathlib.Data.Nat.Digits.Defs
import Mathlib.Tactic.Ring
import PortRoster.Text.Numeral

/-! # Numerals and what they denote

What a reader of whole numbers accepts, told apart from the reader. The digits of a radix are the
characters that write them, letters in either case (`IsDigit`), and a numeral is one digit or more,
which denote a number by their places (`IsNumeral`). The reader tests the bound after every digit.
That is the same as testing the number, since a digit more makes no number smaller.

* `digitOf_eq_some_iff`: the reader knows exactly the digits.
* `readDigits_eq_ok_iff`: it goes on with a number from left to right.
* `readUnsigned_eq_ok_iff`, `readWord_eq_ok_iff`: it reads exactly the numerals below the bound. -/

namespace PortRoster.Text

/-- The character writes a digit of a radix, letters in either case. -/
def IsDigit (radix : Nat) (c : Char) (d : Nat) : Prop :=
  d < radix ∧ (c = hexDigit d ∨ c = (hexDigit d).toLower)

/-- The text is a numeral of a radix: one digit or more, which denote the number. -/
def IsNumeral (radix : Nat) (run : List Char) (n : Nat) : Prop :=
  run ≠ [] ∧ ∃ ds, List.Forall₂ (IsDigit radix) run ds ∧ Nat.ofDigits radix ds.reverse = n

/-- The text is a numeral of a radix, after a plus sign that may be left out. -/
def IsUnsigned (radix : Nat) (cs : List Char) (n : Nat) : Prop :=
  ∃ run, (cs = run ∨ cs = '+' :: run) ∧ IsNumeral radix run n

/-! ### Digits -/

theorem digitValue_eq_some_iff {c : Char} {d : Nat} :
    digitValue c = some d ↔ d < 16 ∧ (c = hexDigit d ∨ c = (hexDigit d).toLower) := by
  constructor
  · intro h
    have hle {a b : Char} (hab : a ≤ b) : a.toNat ≤ b.toNat := hab
    have hat {base n : Nat} (hn : base + n = c.toNat) : c = Char.ofNat (base + n) := by
      rw [hn, Char.ofNat_toNat]
    have h0 : '0'.toNat = 48 ∧ '9'.toNat = 57 := ⟨rfl, rfl⟩
    have ha : 'a'.toNat = 97 ∧ 'f'.toNat = 102 := ⟨rfl, rfl⟩
    have hA : 'A'.toNat = 65 ∧ 'F'.toNat = 70 := ⟨rfl, rfl⟩
    unfold digitValue at h
    split_ifs at h with hdigit hsmall hcapital
    · have hfrom := hle hdigit.1
      have hto := hle hdigit.2
      obtain rfl := Option.some.inj h
      refine ⟨by omega, .inl ?_⟩
      rw [hexDigit, if_pos (by omega)]
      exact hat (by omega)
    · have hfrom := hle hsmall.1
      have hto := hle hsmall.2
      have hletter : ∀ d < 6, (hexDigit (d + 10)).toLower = Char.ofNat ('a'.toNat + d) := by decide
      obtain rfl := Option.some.inj h
      refine ⟨by omega, .inr ?_⟩
      rw [hletter _ (by omega)]
      exact hat (by omega)
    · have hfrom := hle hcapital.1
      have hto := hle hcapital.2
      obtain rfl := Option.some.inj h
      refine ⟨by omega, .inl ?_⟩
      rw [hexDigit, if_neg (by omega)]
      exact hat (by omega)
  · have hread : ∀ d < 16, digitValue (hexDigit d) = some d ∧
        digitValue (hexDigit d).toLower = some d := by decide
    rintro ⟨hd, rfl | rfl⟩
    · exact (hread d hd).1
    · exact (hread d hd).2

/-- **The reader knows exactly the digits of the radix.** -/
theorem digitOf_eq_some_iff {radix : Nat} (hr : radix ≤ 16) {c : Char} {d : Nat} :
    digitOf radix c = some d ↔ IsDigit radix c d := by
  simp only [digitOf, Option.bind_eq_some_iff, digitValue_eq_some_iff, Option.ite_none_right_eq_some,
    Option.some.injEq]
  constructor
  · rintro ⟨d, ⟨-, hc⟩, hd, rfl⟩
    exact ⟨hd, hc⟩
  · rintro ⟨hd, hc⟩
    exact ⟨d, ⟨Nat.lt_of_lt_of_le hd hr, hc⟩, hd, rfl⟩

theorem not_isNumeral_plus {radix n : Nat} (hr : radix ≤ 16) {run : List Char} :
    ¬ IsNumeral radix ('+' :: run) n := by
  rintro ⟨-, ds, hds, -⟩
  obtain ⟨d, _, hd, -, -⟩ := List.forall₂_cons_left_iff.1 hds
  rw [← digitOf_eq_some_iff hr] at hd
  cases hd

/-! ### Places -/

theorem ofDigits_concat (radix n d : Nat) (ds : List Nat) :
    Nat.ofDigits radix (n :: d :: ds).reverse =
      Nat.ofDigits radix ((n * radix + d) :: ds).reverse := by
  simp only [List.reverse_cons, Nat.ofDigits_append, Nat.ofDigits_singleton, List.append_assoc,
    List.length_reverse, List.length_singleton]
  ring

theorem le_ofDigits {radix : Nat} (hr : 0 < radix) (n : Nat) (ds : List Nat) :
    n ≤ Nat.ofDigits radix (n :: ds).reverse := by
  rw [List.reverse_cons, Nat.ofDigits_append, Nat.ofDigits_singleton]
  exact Nat.le_add_left_of_le (Nat.le_mul_of_pos_left n (Nat.pow_pos hr))

/-! ### The reader -/

/-- **The reader goes on with a number from left to right**, and the number that it ends with is
below the bound. -/
theorem readDigits_eq_ok_iff {radix bound n m : Nat} {cs : List Char} (hr : radix ≤ 16)
    (hn : n < bound) : readDigits radix bound n cs = .ok m ↔
      m < bound ∧ ∃ ds, List.Forall₂ (IsDigit radix) cs ds ∧
        Nat.ofDigits radix (n :: ds).reverse = m := by
  induction cs generalizing n with
  | nil =>
    simp only [readDigits, Except.ok.injEq, List.forall₂_nil_left_iff, exists_eq_left,
      List.reverse_singleton, Nat.ofDigits_singleton]
    constructor
    · rintro rfl
      exact ⟨hn, rfl⟩
    · exact And.right
  | cons c cs ih =>
    unfold readDigits
    cases hc : digitOf radix c with
    | none =>
      refine ⟨fun h => (by cases h), ?_⟩
      rintro ⟨-, ds, hds, -⟩
      obtain ⟨d, ds, hd, -, rfl⟩ := List.forall₂_cons_left_iff.1 hds
      rw [(digitOf_eq_some_iff hr).2 hd] at hc
      cases hc
    | some d =>
      have hd := (digitOf_eq_some_iff hr).1 hc
      have hunique {d' : Nat} (hd' : IsDigit radix c d') : d = d' :=
        Option.some.inj (hc.symm.trans ((digitOf_eq_some_iff hr).2 hd'))
      simp only
      split_ifs with hbound
      · rw [ih hbound]
        refine and_congr_right fun _ => ⟨?_, ?_⟩
        · rintro ⟨ds, hds, hm⟩
          exact ⟨d :: ds, .cons hd hds, by rw [ofDigits_concat, hm]⟩
        · rintro ⟨ds, hds, hm⟩
          obtain ⟨d', ds', hd', hds', rfl⟩ := List.forall₂_cons_left_iff.1 hds
          obtain rfl := hunique hd'
          exact ⟨ds', hds', by rw [← ofDigits_concat, hm]⟩
      · refine ⟨fun h => (by cases h), ?_⟩
        rintro ⟨hm, ds, hds, rfl⟩
        obtain ⟨d', ds, hd', -, rfl⟩ := List.forall₂_cons_left_iff.1 hds
        obtain rfl := hunique hd'
        rw [ofDigits_concat] at hm
        have hr' : 0 < radix := Nat.zero_lt_of_lt hd.1
        exact absurd (Nat.lt_of_le_of_lt (le_ofDigits hr' _ ds) hm) hbound

theorem readDigits_zero_eq_ok_iff {radix bound m : Nat} {run : List Char} (hr : radix ≤ 16)
    (hb : 0 < bound) (hrun : run ≠ []) :
    readDigits radix bound 0 run = .ok m ↔ m < bound ∧ IsNumeral radix run m := by
  have hzero (ds : List Nat) : Nat.ofDigits radix (0 :: ds).reverse =
      Nat.ofDigits radix ds.reverse := by
    rw [List.reverse_cons, Nat.ofDigits_append, Nat.ofDigits_singleton, Nat.mul_zero, Nat.add_zero]
  simp only [readDigits_eq_ok_iff hr hb, hzero, IsNumeral]
  exact and_congr_right fun _ => (and_iff_right hrun).symm

/-- **The reader reads exactly the numerals below the bound**, after a plus sign that may be left
out. -/
theorem readUnsigned_eq_ok_iff {radix bound m : Nat} {cs : List Char} (hr : radix ≤ 16)
    (hb : 0 < bound) :
    readUnsigned radix bound cs = .ok m ↔ m < bound ∧ IsUnsigned radix cs m := by
  unfold readUnsigned
  split
  · refine ⟨fun h => (by cases h), ?_⟩
    rintro ⟨-, run, rfl | hcs, hne, -⟩
    · exact absurd rfl hne
    · cases hcs
  · refine ⟨fun h => (by cases h), ?_⟩
    rintro ⟨-, run, rfl | hcs, h⟩
    · exact absurd h (not_isNumeral_plus hr)
    · exact absurd (List.cons.inj hcs).2.symm h.1
  · next cs hne =>
    rw [readDigits_zero_eq_ok_iff hr hb (fun h => hne (by rw [h]))]
    refine and_congr_right fun _ => ⟨fun h => ⟨cs, .inr rfl, h⟩, ?_⟩
    rintro ⟨run, rfl | hcs, h⟩
    · exact absurd h (not_isNumeral_plus hr)
    · rwa [(List.cons.inj hcs).2]
  · next hnil _ hplus =>
    rw [readDigits_zero_eq_ok_iff hr hb hnil]
    refine and_congr_right fun _ => ⟨fun h => ⟨cs, .inl rfl, h⟩, ?_⟩
    rintro ⟨run, rfl | hcs, h⟩
    · exact h
    · exact absurd hcs (hplus run)

theorem readWord_eq_ok_iff {radix : Nat} (hr : radix ≤ 16) {cs : List Char} {w : UInt32} :
    readWord radix cs = .ok w ↔ IsUnsigned radix cs w.toNat := by
  have hb : 0 < wordBound := by decide
  unfold readWord
  constructor
  · intro h
    cases hread : readUnsigned radix wordBound cs with
    | error e => rw [hread] at h; cases h
    | ok m =>
      obtain ⟨hm, hcs⟩ := (readUnsigned_eq_ok_iff hr hb).1 hread
      rw [hread] at h
      cases h
      rwa [UInt32.toNat_ofNat_of_lt' hm]
  · intro h
    rw [(readUnsigned_eq_ok_iff hr hb).2 ⟨w.toNat_lt, h⟩]
    exact congrArg Except.ok UInt32.ofNat_toNat

end PortRoster.Text
