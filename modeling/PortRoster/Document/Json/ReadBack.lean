import PortRoster.Document.Json.Reader
import PortRoster.Document.Json.Writer

/-! # JSON texts read back

A text that is written between quotes is read back, whatever characters it holds.

* `readText_quoted`: reading takes the text and its closing quote and leaves what follows. -/

namespace PortRoster.Json

theorem hexQuad_smallHex {n : Nat} (h : n < 32) :
    hexQuad '0' '0' (smallHex (n / 16)) (smallHex (n % 16)) = some n := by
  have : ∀ n < 32, hexQuad '0' '0' (smallHex (n / 16)) (smallHex (n % 16)) = some n := by decide
  exact this n h

theorem readCodes_escaped {c : Char} {n : Nat} (h : escaped? c = some n) (cs : List Char) :
    readCodes ('\\' :: c :: cs) = (readCodes cs).map fun p => (n :: p.1, p.2) := by
  have hn : escaped? 'u' = none := by decide
  have hu : c ≠ 'u' := fun e => by rw [e, hn] at h; simp at h
  rw [readCodes.eq_4 _ _ (fun _ _ _ _ _ e _ => hu e), h]
  rfl

theorem readCodes_escape (c : Char) (cs : List Char) :
    readCodes (escape c ++ cs) = (readCodes cs).map fun p => (c.toNat :: p.1, p.2) := by
  unfold escape
  iterate 7
    split
    · next h => subst h; exact readCodes_escaped rfl cs
  split
  · next h => simp [readCodes, hexQuad_smallHex h]
  · next hq hb _ _ _ _ _ h => exact readCodes_cons (Nat.le_of_not_lt h) hq hb cs

theorem readCodes_flatMap_escape (cs rest : List Char) :
    readCodes (cs.flatMap escape ++ '"' :: rest) = some (cs.map Char.toNat, rest) := by
  induction cs with
  | nil => simp [readCodes]
  | cons c cs ih => simp [List.append_assoc, readCodes_escape, ih]

theorem not_isHigh_not_isLow (c : Char) : isHigh c.toNat = false ∧ isLow c.toNat = false := by
  have h := c.valid
  unfold UInt32.isValidChar Nat.isValidChar at h
  have e : c.val.toNat = c.toNat := rfl
  rw [e] at h
  simp only [isHigh, isLow, Bool.and_eq_false_iff, decide_eq_false_iff_not]
  omega

theorem joinCodes_toNat (cs : List Char) : joinCodes (cs.map Char.toNat) = some cs := by
  induction cs with
  | nil => rfl
  | cons c cs ih =>
    obtain ⟨h, l⟩ := not_isHigh_not_isLow c
    cases cs with
    | nil => simp [joinCodes, h, l]
    | cons d cs =>
      rw [List.map_cons] at ih
      simp [joinCodes, h, l, ih]

/-- **Reading takes the text and its closing quote and leaves what follows.** -/
theorem readText_quoted (cs rest : List Char) :
    readText (cs.flatMap escape ++ '"' :: rest) = some (String.ofList cs, rest) := by
  simp [readText, readCodes_flatMap_escape, joinCodes_toNat]

theorem readAtom_quoted (cs rest : List Char) :
    readAtom (quoted cs ++ rest) = some (.text (String.ofList cs), rest) := by
  simp [quoted, readAtom, readText_quoted]

end PortRoster.Json
