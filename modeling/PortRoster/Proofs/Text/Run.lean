import Mathlib.Tactic.ByCases
import PortRoster.Text.Numeral

/-! # Runs of characters

A reader takes characters from the front of a text as long as they are of some sort. Such a *run* is
taken whole if what follows it begins with a character of another sort (`Stops`). The decimal digits
of a number are a run: there is no zero in front of them unless it is all there is, and adding them
up from the left gives the number.

* `takeWhile_run`, `dropWhile_run`: a run is taken and what follows it is left.
* `head?_decimal`, `foldl_decimal`, `decimalText_injective`: the digits of a number. -/

namespace PortRoster.Text

/-- A text does not begin with a character of some sort. -/
def Stops (p : Char → Bool) (rest : List Char) : Prop := ∀ c, rest.head? = some c → p c = false

section Run

variable {p : Char → Bool} {run rest : List Char}

theorem stops_nil : Stops p [] := fun _ h => by cases h

theorem stops_cons {c : Char} (h : p c = false) : Stops p (c :: rest) := by
  intro d hd
  cases hd
  exact h

theorem Stops.dropWhile (h : Stops p rest) : rest.dropWhile p = rest := by
  cases rest with
  | nil => rfl
  | cons c rest => simp [h c rfl]

/-- **A run is taken whole.** -/
theorem takeWhile_run (hrun : ∀ c ∈ run, p c) (h : Stops p rest) :
    (run ++ rest).takeWhile p = run := by
  rw [List.takeWhile_append_of_pos hrun]
  cases rest with
  | nil => simp
  | cons c rest => simp [h c rfl]

/-- **What follows a run is left.** -/
theorem dropWhile_run (hrun : ∀ c ∈ run, p c) (h : Stops p rest) :
    (run ++ rest).dropWhile p = rest := by
  rw [List.dropWhile_append_of_pos hrun, h.dropWhile]

end Run

/-! ### Decimal digits -/

theorem ne_of_isDigit {c d : Char} (h : c.isDigit) (hd : d.isDigit = false) : c ≠ d := by
  rintro rfl
  rw [hd] at h
  cases h

theorem isDigit_of_mem_decimal {n : Nat} {c : Char} (h : c ∈ decimal n) : c.isDigit :=
  Nat.isDigit_of_mem_toDigits (by decide) (by decide) h

theorem exists_decimal (n : Nat) : ∃ c cs, decimal n = c :: cs ∧ c.isDigit := by
  obtain ⟨c, cs, h⟩ := List.exists_cons_of_ne_nil (decimal_ne_nil n)
  exact ⟨c, cs, h, isDigit_of_mem_decimal (h ▸ List.mem_cons_self)⟩

/-- **No zero stands in front of a number**, unless the number is zero. -/
theorem head?_decimal {n : Nat} (h : 0 < n) : (decimal n).head? ≠ some '0' := by
  induction n using Nat.strongRecOn with
  | _ n ih =>
    by_cases hn : n < 10
    · have hdigit : ∀ d < 10, 0 < d → d.digitChar ≠ '0' := by decide
      rw [decimal, Nat.toDigits_of_lt_base hn]
      exact fun h0 => hdigit n hn h (Option.some.inj h0)
    · have hn : 10 ≤ n := Nat.le_of_not_lt hn
      have hhead := ih (n / 10) (Nat.div_lt_self h (by decide)) (Nat.div_pos hn (by decide))
      obtain ⟨c, cs, hc, -⟩ := exists_decimal (n / 10)
      rw [decimal, Nat.toDigits_of_base_le (by decide) hn]
      rw [decimal] at hc hhead
      rw [hc] at hhead ⊢
      exact hhead

/-- **The digits make the number**, when each is added to ten times those before it. -/
theorem foldl_decimal {value : Char → Nat} (h : ∀ c, c.isDigit → value c = c.toNat - '0'.toNat)
    (n : Nat) : (decimal n).foldl (fun m c => m * 10 + value c) 0 = n := by
  have hfold (cs : List Char) (m : Nat) (hcs : ∀ c ∈ cs, c.isDigit) :
      cs.foldl (fun m c => m * 10 + value c) m = Nat.ofDigitChars 10 cs m := by
    induction cs generalizing m with
    | nil => rfl
    | cons c cs ih =>
      rw [List.foldl_cons, ih _ fun d hd => hcs d (List.mem_cons_of_mem _ hd),
        Nat.ofDigitChars_cons, h c (hcs c List.mem_cons_self), Nat.mul_comm]
  rw [hfold _ _ fun c hc => isDigit_of_mem_decimal hc]
  exact Nat.ofDigitChars_ten_toDigits

theorem decimalText_injective : Function.Injective decimalText := by
  intro m n h
  have hdigits : decimal m = decimal n := by
    have := congrArg String.toList h
    rwa [decimalText, decimalText, String.toList_ofList, String.toList_ofList] at this
  calc m = Nat.ofDigitChars 10 (decimal m) 0 := Nat.ofDigitChars_ten_toDigits.symm
    _ = Nat.ofDigitChars 10 (decimal n) 0 := by rw [hdigits]
    _ = n := Nat.ofDigitChars_ten_toDigits

end PortRoster.Text
