import Mathlib.Data.Nat.Digits.Defs
import PortRoster.Proofs.Text.Numeral
import PortRoster.Proofs.Text.Run

/-! # Canonical decimals

Many numerals denote one number: `7`, `07` and, with a sign in front, `+7`. One of them is written,
which has no sign and no zero in front, unless zero is all there is. Its digits are those that
Mathlib gives for the number.

* `IsNumeral.eq_map_digits`: a numeral without a zero in front is known by its number.
* `isCanonicalDecimal_iff`: so the canonical decimal of a number is the one that is written. -/

namespace PortRoster.Text

/-- The text is a decimal numeral with no zero in front, unless zero is all there is. -/
def IsCanonicalDecimal (run : List Char) (n : Nat) : Prop :=
  IsNumeral 10 run n ∧ (run.head? = some '0' → run = ['0'])

theorem isDigit_ten_iff {c : Char} {d : Nat} : IsDigit 10 c d ↔ d < 10 ∧ c = hexDigit d := by
  have hcase : ∀ d < 10, (hexDigit d).toLower = hexDigit d := by decide
  refine and_congr_right fun hd => ?_
  rw [hcase d hd, or_self]

theorem isNumeral_ten_iff {run : List Char} {n : Nat} :
    IsNumeral 10 run n ↔
      run ≠ [] ∧ ∃ ds : List Nat, run = ds.map hexDigit ∧ (∀ d ∈ ds, d < 10) ∧
        Nat.ofDigits 10 ds.reverse = n := by
  have hdigits (ds : List Nat) : List.Forall₂ (IsDigit 10) run ds ↔
      run = ds.map hexDigit ∧ ∀ d ∈ ds, d < 10 := by
    induction ds generalizing run with
    | nil => simp
    | cons d ds ih =>
      rw [List.forall₂_cons_right_iff]
      constructor
      · rintro ⟨c, run, hc, hrun, rfl⟩
        obtain ⟨hd, rfl⟩ := isDigit_ten_iff.1 hc
        obtain ⟨rfl, hds⟩ := ih.1 hrun
        exact ⟨rfl, List.forall_mem_cons.2 ⟨hd, hds⟩⟩
      · rintro ⟨rfl, hds⟩
        obtain ⟨hd, hds⟩ := List.forall_mem_cons.1 hds
        exact ⟨_, _, isDigit_ten_iff.2 ⟨hd, rfl⟩, ih.2 ⟨rfl, hds⟩, rfl⟩
  simp only [IsNumeral, hdigits, and_assoc]

/-- **A numeral without a zero in front is known by its number.** -/
theorem IsNumeral.eq_map_digits {run : List Char} {n : Nat} (h : IsNumeral 10 run n)
    (hzero : run.head? ≠ some '0') : run = (Nat.digits 10 n).reverse.map hexDigit := by
  obtain ⟨-, ds, rfl, hds, rfl⟩ := isNumeral_ten_iff.1 h
  rw [Nat.digits_ofDigits 10 (by decide) ds.reverse (fun d hd => hds d (List.mem_reverse.1 hd)),
    List.reverse_reverse]
  intro hne hlast
  rw [List.getLast_reverse] at hlast
  cases ds with
  | nil => exact hne rfl
  | cons d ds => exact hzero (by rw [List.map_cons, List.head?_cons, show d = 0 from hlast]; rfl)

theorem isNumeral_decimal (n : Nat) : IsNumeral 10 (decimal n) n :=
  ((readDigits_zero_eq_ok_iff (by decide) n.succ_pos (decimal_ne_nil n)).1
    (readDigits_decimal n.lt_succ_self)).2

/-- **The canonical decimal of a number is the one that is written.** -/
theorem isCanonicalDecimal_iff {run : List Char} {n : Nat} :
    IsCanonicalDecimal run n ↔ run = decimal n := by
  constructor
  · rintro ⟨h, hzero⟩
    by_cases hhead : run.head? = some '0'
    · rw [hzero hhead] at h ⊢
      obtain ⟨-, ds, hds, hlt, rfl⟩ := isNumeral_ten_iff.1 h
      obtain ⟨d, rfl, hd⟩ := List.map_eq_singleton_iff.1 hds.symm
      have hvalue : ∀ d < 10, hexDigit d = '0' → d = 0 := by decide
      rw [hvalue d (hlt d List.mem_cons_self) hd]
      rfl
    · have hpos : 0 < n := by
        rcases Nat.eq_zero_or_pos n with rfl | hpos
        · exact absurd (h.eq_map_digits hhead) h.1
        · exact hpos
      rw [h.eq_map_digits hhead, ← (isNumeral_decimal n).eq_map_digits (head?_decimal hpos)]
  · rintro rfl
    refine ⟨isNumeral_decimal n, fun hhead => ?_⟩
    rcases Nat.eq_zero_or_pos n with rfl | hpos
    · rfl
    · exact absurd hhead (head?_decimal hpos)

end PortRoster.Text
