import PortRoster.Text.Blank

/-! # The case of ASCII letters

A text in capitals, where only the 26 letters of ASCII have a capital form.

* `capitals_capitals`: capitals stay as they are.
* `trim_capitals`: trimming and capitals may be applied in either order. -/

namespace PortRoster.Text

/-- The text with every ASCII letter as a capital. -/
def capitals (cs : List Char) : List Char := cs.map Char.toUpper

/-- The two texts differ at most in the case of ASCII letters. -/
def sameLetters (a b : String) : Bool := capitals a.toList == capitals b.toList

theorem toUpper_cases (c : Char) :
    (97 ≤ c.toNat ∧ c.toNat ≤ 122 ∧ c.toUpper.toNat = c.toNat - 32) ∨
      (¬ (97 ≤ c.toNat ∧ c.toNat ≤ 122) ∧ c.toUpper = c) := by
  unfold Char.toUpper
  split
  · next h =>
    left
    have h1 : 97 ≤ c.val.toNat := UInt32.le_iff_toNat_le.1 h.1
    have h2 : c.val.toNat ≤ 122 := UInt32.le_iff_toNat_le.1 h.2
    refine ⟨h1, h2, ?_⟩
    simp only [Char.toNat, UInt32.toNat_add, UInt32.toNat_sub]
    have e1 : 'a'.val.toNat = 97 := rfl
    have e2 : 'A'.val.toNat = 65 := rfl
    rw [e1, e2]
    omega
  · next h =>
    right
    refine ⟨fun hc => h ⟨?_, ?_⟩, rfl⟩
    · exact UInt32.le_iff_toNat_le.2 hc.1
    · exact UInt32.le_iff_toNat_le.2 hc.2

theorem toUpper_toUpper (c : Char) : c.toUpper.toUpper = c.toUpper := by
  rcases toUpper_cases c.toUpper with ⟨h1, h2, _⟩ | ⟨_, h⟩
  · rcases toUpper_cases c with ⟨h3, h4, h5⟩ | ⟨h3, h4⟩
    · omega
    · rw [h4] at h1 h2; exact absurd ⟨h1, h2⟩ h3
  · exact h

/-- **Capitals stay as they are.** -/
theorem capitals_capitals (cs : List Char) : capitals (capitals cs) = capitals cs := by
  rw [capitals, capitals, List.map_map]
  exact List.map_congr_left fun c _ => toUpper_toUpper c

theorem isBlank_toUpper (c : Char) : isBlank c.toUpper = isBlank c := by
  rcases toUpper_cases c with ⟨h1, h2, h3⟩ | ⟨_, h⟩
  · have hb : ∀ n, 65 ≤ n → n ≤ 122 → (blankRuns.any fun r => r.1 ≤ n && n ≤ r.2) = false := by
      intro n h4 h5
      simp [blankRuns]
      omega
    unfold isBlank
    rw [hb c.toNat (by omega) (by omega), hb c.toUpper.toNat (by omega) (by omega)]
  · rw [h]

theorem dropWhile_capitals (cs : List Char) :
    (capitals cs).dropWhile isBlank = capitals (cs.dropWhile isBlank) := by
  induction cs with
  | nil => rfl
  | cons c cs ih =>
    simp only [capitals, List.map_cons, List.dropWhile_cons, isBlank_toUpper]
    split
    · exact ih
    · rfl

/-- **Trimming and capitals may be applied in either order.** -/
theorem trim_capitals (cs : List Char) : trim (capitals cs) = capitals (trim cs) := by
  have h (ds : List Char) : (capitals ds).reverse = capitals ds.reverse := by
    simp [capitals, List.map_reverse]
  simp only [trim, trimEnd, dropWhile_capitals, h]

end PortRoster.Text
