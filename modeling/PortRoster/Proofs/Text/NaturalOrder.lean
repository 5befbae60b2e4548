import PortRoster.Text.NaturalOrder

/-! # The natural order is a total order

Two runs of digits compare by what they denote, two other characters by code point, and a run
against another character by its first digit. That this is transitive rests on one fact: no other
character stands between two digits, so a run may as well be compared by the digit `0`
(`compare_digit`). So pieces compare as their *keys* do, which are compared lexicographically, and
labels compare as lists of keys. A key keeps all of its piece: a run of digits is the zeros in front
and the other digits, and the length tells the number of the zeros.

* `order_eq_keyOrder`: pieces of a text compare as their keys.
* `naturalLe_trans`, `naturalLe_total`: the natural order is transitive and total.
* `eq_of_naturalOrder_eq`: only identical labels compare equal. -/

namespace PortRoster.Text

namespace Piece

/-- A run holds one or more digits, and a character on its own is no digit. -/
def WellFormed : Piece → Prop
  | digits run => run ≠ [] ∧ ∀ c ∈ run, c.isDigit
  | other c => ¬ c.isDigit

/-- The character that stands for a piece among pieces of another form. -/
def lead : Piece → Char
  | digits _ => '0'
  | other c => c

/-- The digits of a run without zeros in front. -/
def significant : Piece → List Char
  | digits run => run.dropWhile (· == '0')
  | other _ => []

/-- The order of the digits without zeros in front. -/
def significantOrder (p q : Piece) : Ordering := List.compareLex compare p.significant q.significant

/-- The lexicographic order of the keys of two pieces. -/
def keyOrder : Piece → Piece → Ordering :=
  compareLex (compareOn lead) <| compareLex (compareOn (·.significant.length)) <|
    compareLex significantOrder (compareOn (·.text.length))

instance : Std.TransCmp significantOrder where
  eq_swap := @fun p q =>
    @Std.OrientedCmp.eq_swap _ (List.compareLex compare) _ p.significant q.significant
  isLE_trans := @fun p q o =>
    @Std.TransCmp.isLE_trans _ (List.compareLex compare) _ p.significant q.significant o.significant

instance : Std.TransCmp keyOrder := inferInstanceAs (Std.TransCmp (compareLex _ _))

end Piece

/-! ### Digits and other characters -/

theorem isDigit_iff (c : Char) : c.isDigit ↔ 48 ≤ c.toNat ∧ c.toNat ≤ 57 := by
  simp [Char.isDigit, UInt32.le_iff_toNat_le]

theorem compare_eq_ite (c d : Char) :
    compare c d = if c.toNat < d.toNat then .lt else if c.toNat = d.toNat then .eq else .gt := by
  have hlt : c < d ↔ c.toNat < d.toNat := UInt32.lt_iff_toNat_lt
  have heq : c = d ↔ c.toNat = d.toNat := Char.toNat_inj.symm
  show compareOfLessAndEq c d = _
  simp only [compareOfLessAndEq, hlt, heq]

theorem compare_digit {c d : Char} (hc : c.isDigit) (hd : ¬ d.isDigit) :
    compare c d = compare '0' d := by
  rw [isDigit_iff] at hc hd
  have h0 : '0'.toNat = 48 := rfl
  rw [compare_eq_ite, compare_eq_ite, h0]
  rcases Nat.lt_or_ge d.toNat 48 with h | h
  · rw [if_neg (by omega), if_neg (by omega), if_neg (by omega), if_neg (by omega)]
  · rw [if_pos (by omega), if_pos (by omega)]

theorem compare_digit_right {c d : Char} (hc : ¬ c.isDigit) (hd : d.isDigit) :
    compare c d = compare c '0' := by
  have hswap (e : Char) : compare c e = (compare e c).swap := Std.OrientedCmp.eq_swap
  rw [hswap d, hswap '0', compare_digit hd hc]

theorem compare_ne_eq_of_not_isDigit {d : Char} (hd : ¬ d.isDigit) : compare '0' d ≠ .eq :=
  fun h => hd (Std.LawfulEqCmp.eq_of_compare h ▸ rfl)

/-! ### Pieces of a text -/

namespace Piece

theorem exists_head_of_wellFormed {run : List Char} (h : (digits run).WellFormed) :
    ∃ c, run.headD '0' = c ∧ c.isDigit := by
  obtain ⟨hne, hd⟩ := h
  cases run with
  | nil => exact absurd rfl hne
  | cons c cs => exact ⟨c, rfl, hd c List.mem_cons_self⟩

/-- **Pieces of a text compare as their keys.** -/
theorem order_eq_keyOrder {p q : Piece} (hp : p.WellFormed) (hq : q.WellFormed) :
    order p q = keyOrder p q := by
  cases p with
  | digits x =>
    cases q with
    | digits y =>
      have h0 : compare '0' '0' = .eq := Std.ReflCmp.compare_self
      simp only [order, compareRuns, keyOrder, compareLex, compareOn, lead, significant,
        significantOrder, text, h0]
      rfl
    | other d =>
      obtain ⟨c, hc, hcd⟩ := exists_head_of_wellFormed hp
      have hne := compare_ne_eq_of_not_isDigit hq
      simp only [order, hc, compare_digit hcd hq, keyOrder, compareLex, compareOn, lead]
      cases h : compare '0' d
      · rfl
      · exact absurd h hne
      · rfl
  | other c =>
    cases q with
    | digits y =>
      obtain ⟨d, hd, hdd⟩ := exists_head_of_wellFormed hq
      have hne : compare c '0' ≠ .eq := fun h =>
        compare_ne_eq_of_not_isDigit hp (Std.OrientedCmp.eq_comm.1 h)
      simp only [order, hd, compare_digit_right hp hdd, keyOrder, compareLex, compareOn, lead]
      cases h : compare c '0'
      · rfl
      · exact absurd h hne
      · rfl
    | other d =>
      have h0 : significantOrder (other c) (other d) = .eq := rfl
      simp [order, keyOrder, compareLex, compareOn, lead, significant, h0, text]

/-- A run of digits is its zeros in front and its other digits, so these digits and the length
determine it. -/
theorem run_eq_of_significant_eq {x y : List Char}
    (hs : (digits x).significant = (digits y).significant) (hl : x.length = y.length) : x = y := by
  have hzeros (run : List Char) : run.takeWhile (· == '0') =
      List.replicate (run.takeWhile (· == '0')).length '0' := by
    refine List.eq_replicate_iff.2 ⟨rfl, fun c hc => ?_⟩
    exact eq_of_beq (List.all_eq_true.1 List.all_takeWhile c hc)
  have hrun (run : List Char) :
      run = List.replicate (run.takeWhile (· == '0')).length '0' ++ (digits run).significant := by
    rw [← hzeros]
    exact List.takeWhile_append_dropWhile.symm
  have hlen (run : List Char) :
      (run.takeWhile (· == '0')).length + (digits run).significant.length = run.length := by
    rw [← List.length_append]
    exact congrArg List.length List.takeWhile_append_dropWhile
  have hcount : (x.takeWhile (· == '0')).length = (y.takeWhile (· == '0')).length := by
    have hx := hlen x
    have hy := hlen y
    rw [hs] at hx
    omega
  rw [hrun x, hrun y, hs, hcount]

theorem eq_of_keyOrder_eq {p q : Piece} (hp : p.WellFormed) (hq : q.WellFormed)
    (h : keyOrder p q = .eq) : p = q := by
  simp only [keyOrder, compareLex_eq_eq, compareOn, Std.compare_eq_iff_eq] at h
  obtain ⟨hlead, -, hsig, hlen⟩ := h
  cases p with
  | digits x =>
    cases q with
    | digits y =>
      have hcompare : List.compareLex compare (digits x).significant (digits y).significant = .eq :=
        hsig
      rw [run_eq_of_significant_eq (Std.LawfulEqCmp.eq_of_compare hcompare) hlen]
    | other d =>
      have hd : '0' = d := hlead
      subst hd
      exact absurd rfl hq
  | other c =>
    cases q with
    | digits y =>
      have hc : c = '0' := hlead
      subst hc
      exact absurd rfl hp
    | other d => exact congrArg other hlead

end Piece

theorem wellFormed_of_mem_pieces {cs : List Char} {p : Piece} (h : p ∈ pieces cs) :
    p.WellFormed := by
  fun_induction pieces cs with
  | case1 => exact absurd h List.not_mem_nil
  | case2 c cs hc ih =>
    rcases List.mem_cons.1 h with rfl | h
    · refine ⟨List.cons_ne_nil _ _, fun d hd => ?_⟩
      rcases List.mem_cons.1 hd with rfl | hd
      · exact hc
      · exact List.all_eq_true.1 List.all_takeWhile d hd
    · exact ih h
  | case3 c cs hc ih =>
    rcases List.mem_cons.1 h with rfl | h
    · exact hc
    · exact ih h

/-! ### Labels -/

theorem compareLex_congr {α : Type} {cmp cmp' : α → α → Ordering} : ∀ {xs ys : List α},
    (∀ x ∈ xs, ∀ y ∈ ys, cmp x y = cmp' x y) →
      List.compareLex cmp xs ys = List.compareLex cmp' xs ys
  | [], [], _ => rfl
  | [], _ :: _, _ => rfl
  | _ :: _, [], _ => rfl
  | x :: xs, y :: ys, h => by
    have hxy := h x List.mem_cons_self y List.mem_cons_self
    have ih : List.compareLex cmp xs ys = List.compareLex cmp' xs ys :=
      compareLex_congr fun a ha b hb =>
        h a (List.mem_cons_of_mem _ ha) b (List.mem_cons_of_mem _ hb)
    rw [List.compareLex_cons_cons, List.compareLex_cons_cons, hxy, ih]

theorem eq_of_compareLex_eq {α : Type} {cmp : α → α → Ordering} : ∀ {xs ys : List α},
    (∀ x ∈ xs, ∀ y ∈ ys, cmp x y = .eq → x = y) → List.compareLex cmp xs ys = .eq → xs = ys
  | [], [], _, _ => rfl
  | [], _ :: _, _, h => by cases h
  | _ :: _, [], _, h => by cases h
  | x :: xs, y :: ys, heq, h => by
    rw [List.compareLex_cons_cons, Ordering.then_eq_eq] at h
    have hxs : xs = ys := eq_of_compareLex_eq
      (fun a ha b hb => heq a (List.mem_cons_of_mem _ ha) b (List.mem_cons_of_mem _ hb)) h.2
    rw [heq x List.mem_cons_self y List.mem_cons_self h.1, hxs]

theorem naturalOrder_eq_keyOrder (a b : String) :
    naturalOrder a b = List.compareLex Piece.keyOrder (pieces a.toList) (pieces b.toList) :=
  compareLex_congr fun _ hp _ hq =>
    Piece.order_eq_keyOrder (wellFormed_of_mem_pieces hp) (wellFormed_of_mem_pieces hq)

instance : Std.TransCmp naturalOrder where
  eq_swap := by
    intro a b
    rw [naturalOrder_eq_keyOrder, naturalOrder_eq_keyOrder b a]
    exact Std.OrientedCmp.eq_swap
  isLE_trans := by
    intro a b c hab hbc
    rw [naturalOrder_eq_keyOrder] at hab hbc ⊢
    exact Std.TransCmp.isLE_trans hab hbc

/-- **The natural order is transitive.** -/
theorem naturalLe_trans {a b c : String} (hab : naturalLe a b) (hbc : naturalLe b c) :
    naturalLe a c :=
  @Std.TransCmp.isLE_trans _ naturalOrder _ _ _ _ hab hbc

/-- **The natural order is total.** -/
theorem naturalLe_total (a b : String) : naturalLe a b || naturalLe b a := by
  have hs : naturalOrder b a = (naturalOrder a b).swap := Std.OrientedCmp.eq_swap
  rw [naturalLe, naturalLe, hs]
  cases naturalOrder a b <;> rfl

/-- **Only identical labels compare equal.** -/
theorem eq_of_naturalOrder_eq {a b : String} (h : naturalOrder a b = .eq) : a = b := by
  rw [naturalOrder_eq_keyOrder] at h
  have hpieces : pieces a.toList = pieces b.toList := eq_of_compareLex_eq
    (fun _ hp _ hq => Piece.eq_of_keyOrder_eq (wellFormed_of_mem_pieces hp)
      (wellFormed_of_mem_pieces hq)) h
  rw [← String.toList_inj, ← text_pieces a.toList, hpieces, text_pieces]

instance : Std.LawfulEqCmp naturalOrder where
  eq_of_compare := eq_of_naturalOrder_eq

theorem naturalLe_antisymm {a b : String} (hab : naturalLe a b) (hba : naturalLe b a) : a = b :=
  eq_of_naturalOrder_eq (@Std.OrientedCmp.isLE_antisymm _ naturalOrder _ _ _ hab hba)

end PortRoster.Text
