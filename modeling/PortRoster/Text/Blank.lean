/-! # Blank characters

The characters with the Unicode property White_Space, and a text without the blanks at its ends.

* `trim_trim`: trimming twice changes nothing more. -/

namespace PortRoster.Text

/-- The first and last code point of each run of characters with the property White_Space. -/
def blankRuns : List (Nat × Nat) :=
  [(0x09, 0x0D), (0x20, 0x20), (0x85, 0x85), (0xA0, 0xA0), (0x1680, 0x1680), (0x2000, 0x200A),
   (0x2028, 0x2029), (0x202F, 0x202F), (0x205F, 0x205F), (0x3000, 0x3000)]

/-- The character has the Unicode property White_Space. -/
def isBlank (c : Char) : Bool := blankRuns.any fun r => r.1 ≤ c.toNat && c.toNat ≤ r.2

/-- The characters up to the last one that is not blank. -/
def trimEnd (cs : List Char) : List Char := (cs.reverse.dropWhile isBlank).reverse

/-- The characters from the first to the last one that is not blank. -/
def trim (cs : List Char) : List Char := trimEnd (cs.dropWhile isBlank)

theorem dropWhile_eq_self {p : Char → Bool} {cs : List Char} (h : ∀ c, cs.head? = some c → ¬ p c) :
    cs.dropWhile p = cs := by
  cases cs with
  | nil => rfl
  | cons c r => simp [List.dropWhile, h c rfl]

theorem not_head_dropWhile {p : Char → Bool} (cs : List Char) (c : Char)
    (h : (cs.dropWhile p).head? = some c) : ¬ p c := by
  induction cs with
  | nil => simp at h
  | cons d r ih =>
    by_cases hd : p d
    · simp [List.dropWhile, hd] at h; exact ih h
    · simp [List.dropWhile, hd] at h; exact h ▸ hd

theorem trimEnd_trimEnd (cs : List Char) : trimEnd (trimEnd cs) = trimEnd cs := by
  unfold trimEnd
  rw [List.reverse_reverse, dropWhile_eq_self (not_head_dropWhile _)]

theorem exists_trimEnd_append (cs : List Char) : ∃ t, cs = trimEnd cs ++ t := by
  refine ⟨(cs.reverse.takeWhile isBlank).reverse, ?_⟩
  unfold trimEnd
  rw [← List.reverse_append, List.takeWhile_append_dropWhile, List.reverse_reverse]

theorem head?_trimEnd {cs : List Char} {c : Char} (h : (trimEnd cs).head? = some c) :
    cs.head? = some c := by
  obtain ⟨t, ht⟩ := exists_trimEnd_append cs
  rw [ht]
  cases hx : trimEnd cs with
  | nil => rw [hx] at h; simp at h
  | cons d r => rw [hx] at h; simpa using h

/-- **Trimming twice changes nothing more.** -/
theorem trim_trim (cs : List Char) : trim (trim cs) = trim cs := by
  have h : ∀ c, (trim cs).head? = some c → ¬ isBlank c := fun c hc =>
    not_head_dropWhile cs c (head?_trimEnd hc)
  unfold trim at h ⊢
  rw [dropWhile_eq_self h, trimEnd_trimEnd]

end PortRoster.Text
