import Mathlib.Data.List.Basic
import PortRoster.Proofs.Text.Comparison
import PortRoster.Proofs.Text.Run
import PortRoster.Text.Blank

/-! # Labels with numbers

Runs of digits are compared as texts, by their lengths without the zeros in front and then from left
to right, and never read as numbers, so they may be of any length. What comes of it is the order of
the numbers all the same: without zeros in front the longer run is the greater number
(`numberOf_lt_of_length_lt`), and runs of one length compare from left to right as their numbers do
(`compareLex_eq_compare_numberOf`). Two labels that begin alike come to their runs together, unless
the common beginning ends in a digit (`pieces_append_other`).

* `compareRuns_eq_compare_numberOf`: runs compare by number, and then by length.
* `naturalOrder_of_runs`: labels that first differ in a number compare as the numbers. -/

namespace PortRoster.Text

/-- The number that a run of decimal digits denotes. -/
def numberOf (run : List Char) : Nat := Nat.ofDigitChars 10 run 0

theorem numberOf_decimal (n : Nat) : numberOf (decimal n) = n := Nat.ofDigitChars_ten_toDigits

theorem numberOf_cons (c : Char) (run : List Char) :
    numberOf (c :: run) = Nat.pow 10 run.length * (c.toNat - '0'.toNat) + numberOf run := by
  unfold numberOf
  rw [Nat.ofDigitChars_cons, Nat.ofDigitChars_eq_ofDigitChars_zero, Nat.mul_zero, Nat.zero_add]
  rfl

theorem numberOf_significant (run : List Char) :
    numberOf (Piece.digits run).significant = numberOf run := by
  induction run with
  | nil => rfl
  | cons c run ih =>
    by_cases hc : c = '0'
    · subst hc
      rw [numberOf_cons, Nat.sub_self, Nat.mul_zero, Nat.zero_add, ← ih]
      rfl
    · have hkeep : (Piece.digits (c :: run)).significant = c :: run := by
        simp [Piece.significant, hc]
      rw [hkeep]

/-! ### Runs and their numbers -/

theorem compare_digits {c d : Char} (hc : c.isDigit) (hd : d.isDigit) :
    compare c d = compare (c.toNat - '0'.toNat) (d.toNat - '0'.toNat) := by
  have h0 : '0'.toNat = 48 := rfl
  rw [isDigit_iff] at hc hd
  rcases Nat.lt_trichotomy c.toNat d.toNat with h | h | h
  · rw [compare_eq_ite, if_pos h, Nat.compare_eq_lt.2 (by omega)]
  · rw [compare_eq_ite, if_neg (by omega), if_pos h, Nat.compare_eq_eq.2 (by omega)]
  · rw [compare_eq_ite, if_neg (by omega), if_neg (by omega), Nat.compare_eq_gt.2 (by omega)]

theorem numberOf_lt_pow {run : List Char} (h : ∀ c ∈ run, c.isDigit) :
    numberOf run < Nat.pow 10 run.length := by
  induction run with
  | nil => exact Nat.one_pos
  | cons c run ih =>
    have hc := (isDigit_iff c).1 (h c List.mem_cons_self)
    have hrun := ih fun d hd => h d (List.mem_cons_of_mem _ hd)
    have hdigit : c.toNat - '0'.toNat ≤ 9 := by
      have h0 : '0'.toNat = 48 := rfl
      omega
    calc numberOf (c :: run)
        = Nat.pow 10 run.length * (c.toNat - '0'.toNat) + numberOf run := numberOf_cons c run
      _ < Nat.pow 10 run.length * 9 + Nat.pow 10 run.length :=
        Nat.add_lt_add_of_le_of_lt (Nat.mul_le_mul_left _ hdigit) hrun
      _ = Nat.pow 10 (c :: run).length := (Nat.mul_succ _ 9).symm

theorem compare_mul_add {m a b i j : Nat} (hi : i < m) (hj : j < m) :
    compare (m * a + i) (m * b + j) = (compare a b).then (compare i j) := by
  rcases Nat.lt_trichotomy a b with hab | rfl | hab
  · have hstep : m * a + m ≤ m * b := Nat.mul_le_mul_left m hab
    rw [Nat.compare_eq_lt.2 hab, Nat.compare_eq_lt.2 (by omega)]
    rfl
  · rw [Nat.compare_eq_eq.2 rfl]
    show _ = compare i j
    rw [Nat.compare_eq_ite_lt, Nat.compare_eq_ite_lt]
    simp only [Nat.add_lt_add_iff_left]
  · have hstep : m * b + m ≤ m * a := Nat.mul_le_mul_left m hab
    rw [Nat.compare_eq_gt.2 hab, Nat.compare_eq_gt.2 (by omega)]
    rfl

/-- **Runs of one length compare from left to right as their numbers do.** -/
theorem compareLex_eq_compare_numberOf : ∀ {x y : List Char}, x.length = y.length →
    (∀ c ∈ x, c.isDigit) → (∀ c ∈ y, c.isDigit) →
      List.compareLex compare x y = compare (numberOf x) (numberOf y)
  | [], [], _, _, _ => rfl
  | c :: x, d :: y, hlen, hx, hy => by
    have hlen : x.length = y.length := Nat.succ.inj hlen
    have hx' : ∀ e ∈ x, e.isDigit := fun e he => hx e (List.mem_cons_of_mem _ he)
    have hy' : ∀ e ∈ y, e.isDigit := fun e he => hy e (List.mem_cons_of_mem _ he)
    have hlt := numberOf_lt_pow hy'
    rw [← hlen] at hlt
    rw [List.compareLex_cons_cons, compareLex_eq_compare_numberOf hlen hx' hy',
      compare_digits (hx c List.mem_cons_self) (hy d List.mem_cons_self), numberOf_cons,
      numberOf_cons, ← hlen, compare_mul_add (numberOf_lt_pow hx') hlt]

/-- **Without zeros in front, the longer run is the greater number.** -/
theorem numberOf_lt_of_length_lt {x y : List Char} (hx : ∀ c ∈ x, c.isDigit)
    (hy : ∀ c ∈ y, c.isDigit) (hzero : y.head? ≠ some '0') (h : x.length < y.length) :
    numberOf x < numberOf y := by
  cases y with
  | nil => exact absurd h (Nat.not_lt_zero _)
  | cons d y =>
    have hd := (isDigit_iff d).1 (hy d List.mem_cons_self)
    have hne : d.toNat ≠ 48 := fun h48 => hzero (congrArg some (Char.toNat_inj.1 h48))
    have hdigit : 1 ≤ d.toNat - '0'.toNat := by
      have h0 : '0'.toNat = 48 := rfl
      omega
    calc numberOf x
        < Nat.pow 10 x.length := numberOf_lt_pow hx
      _ ≤ Nat.pow 10 y.length := Nat.pow_le_pow_right (by decide) (Nat.le_of_lt_succ h)
      _ ≤ Nat.pow 10 y.length * (d.toNat - '0'.toNat) := Nat.le_mul_of_pos_right _ hdigit
      _ ≤ numberOf (d :: y) := by rw [numberOf_cons]; exact Nat.le_add_right _ _

/-- **Runs compare by number, and then by length.** -/
theorem compareRuns_eq_compare_numberOf {x y : List Char} (hx : ∀ c ∈ x, c.isDigit)
    (hy : ∀ c ∈ y, c.isDigit) :
    Piece.compareRuns x y =
      (compare (numberOf x) (numberOf y)).then (compare x.length y.length) := by
  have hdigits (run : List Char) (hrun : ∀ c ∈ run, c.isDigit) :
      ∀ c ∈ (Piece.digits run).significant, c.isDigit :=
    fun c hc => hrun c ((List.dropWhile_sublist _).subset hc)
  have hhead (run : List Char) : (Piece.digits run).significant.head? ≠ some '0' :=
    fun h => not_head_dropWhile (p := (· == '0')) run '0' h rfl
  have hx' := hdigits x hx
  have hy' := hdigits y hy
  rw [← numberOf_significant x, ← numberOf_significant y]
  unfold Piece.compareRuns
  show (compare (Piece.digits x).significant.length (Piece.digits y).significant.length).then
    ((List.compareLex compare (Piece.digits x).significant (Piece.digits y).significant).then _) = _
  rcases Nat.lt_trichotomy (Piece.digits x).significant.length
    (Piece.digits y).significant.length with h | h | h
  · rw [Nat.compare_eq_lt.2 h, Nat.compare_eq_lt.2 (numberOf_lt_of_length_lt hx' hy' (hhead y) h)]
    rfl
  · rw [Nat.compare_eq_eq.2 h, compareLex_eq_compare_numberOf h hx' hy']
    rfl
  · rw [Nat.compare_eq_gt.2 h, Nat.compare_eq_gt.2 (numberOf_lt_of_length_lt hy' hx' (hhead x) h)]
    rfl

/-! ### Labels that begin alike -/

theorem pieces_append_other {d : Char} (hd : ¬ d.isDigit) (cs rest : List Char) :
    pieces (cs ++ d :: rest) = pieces cs ++ .other d :: pieces rest := by
  fun_induction pieces cs with
  | case1 => exact pieces_other rest hd
  | case2 c cs hc ih =>
    have hrun : ∀ e ∈ cs.takeWhile Char.isDigit, e.isDigit :=
      fun e he => List.all_eq_true.1 List.all_takeWhile e he
    have hstops : Stops Char.isDigit (cs.dropWhile Char.isDigit ++ d :: rest) := by
      cases hdrop : cs.dropWhile Char.isDigit with
      | nil => exact stops_cons (Bool.eq_false_iff.2 hd)
      | cons e es =>
        refine stops_cons (Bool.eq_false_iff.2 (not_head_dropWhile (p := Char.isDigit) cs e ?_))
        rw [hdrop]
        rfl
    have hsplit : cs ++ d :: rest =
        cs.takeWhile Char.isDigit ++ (cs.dropWhile Char.isDigit ++ d :: rest) := by
      rw [← List.append_assoc, List.takeWhile_append_dropWhile]
    rw [List.cons_append, pieces_digit _ hc, hsplit, takeWhile_run hrun hstops,
      dropWhile_run hrun hstops, ih]
    rfl
  | case3 c cs hc ih =>
    rw [List.cons_append, pieces_other _ hc, ih]
    rfl

theorem pieces_run {run rest : List Char} (hrun : (Piece.digits run).WellFormed)
    (hrest : Stops Char.isDigit rest) : pieces (run ++ rest) = .digits run :: pieces rest := by
  obtain ⟨hne, hdigit⟩ := hrun
  cases run with
  | nil => exact absurd rfl hne
  | cons c run =>
    have htail : ∀ e ∈ run, e.isDigit := fun e he => hdigit e (List.mem_cons_of_mem _ he)
    rw [List.cons_append, pieces_digit _ (hdigit c List.mem_cons_self),
      takeWhile_run htail hrest, dropWhile_run htail hrest]

theorem compareLex_append_left {α : Type} {cmp : α → α → Ordering} (h : ∀ a, cmp a a = .eq) :
    ∀ as xs ys : List α, List.compareLex cmp (as ++ xs) (as ++ ys) = List.compareLex cmp xs ys
  | [], _, _ => rfl
  | a :: as, xs, ys => by
    rw [List.cons_append, List.cons_append, List.compareLex_cons_cons, h a,
      compareLex_append_left h as xs ys]
    rfl

theorem Piece.order_self (p : Piece) : p.order p = .eq := by
  cases p with
  | digits run =>
    have hrun : List.compareLex compare (run.dropWhile (· == '0')) (run.dropWhile (· == '0')) =
        .eq := Std.ReflCmp.compare_self
    simp [order, compareRuns, hrun]
  | other c =>
    show compare c c = .eq
    exact Std.ReflCmp.compare_self

/-- **Labels that differ in a number from some place on compare as the numbers.** The labels begin
alike up to a character that is no digit, and what follows the numbers does not matter. -/
theorem naturalOrder_of_runs {p x y s t : String}
    (hp : ∀ c, p.toList.getLast? = some c → ¬ c.isDigit)
    (hx : (Piece.digits x.toList).WellFormed) (hy : (Piece.digits y.toList).WellFormed)
    (hs : Stops Char.isDigit s.toList) (ht : Stops Char.isDigit t.toList)
    (hne : numberOf x.toList ≠ numberOf y.toList) :
    naturalOrder (p ++ x ++ s) (p ++ y ++ t) = compare (numberOf x.toList) (numberOf y.toList) := by
  have hruns : pieceOrder (x.toList ++ s.toList) (y.toList ++ t.toList) =
      compare (numberOf x.toList) (numberOf y.toList) := by
    unfold pieceOrder
    rw [pieces_run hx hs, pieces_run hy ht, List.compareLex_cons_cons]
    show (Piece.compareRuns x.toList y.toList).then _ = _
    rw [compareRuns_eq_compare_numberOf hx.2 hy.2]
    rcases Nat.lt_or_gt_of_ne hne with h | h
    · rw [Nat.compare_eq_lt.2 h]
      rfl
    · rw [Nat.compare_eq_gt.2 h]
      rfl
  show pieceOrder (p ++ x ++ s).toList (p ++ y ++ t).toList = _
  simp only [String.toList_append, List.append_assoc]
  rw [← hruns]
  rcases List.eq_nil_or_concat' p.toList with hnil | ⟨cs, d, hcs⟩
  · rw [hnil]
    rfl
  · have hd : ¬ d.isDigit := hp d (by rw [hcs, List.getLast?_concat])
    unfold pieceOrder
    rw [hcs]
    simp only [List.append_assoc, List.singleton_append, pieces_append_other hd]
    rw [compareLex_append_left Piece.order_self, List.compareLex_cons_cons, Piece.order_self]
    rfl

end PortRoster.Text
