import PortRoster.Proofs.Text.NaturalOrder

/-! # Comparing labels from left to right

Two labels can be compared without cutting them into pieces first, in *rounds*: a round looks at
what the two texts begin with, and either decides or goes on with what is left of them. A round that
goes on leaves less of both texts, so the rounds come to an end, whatever the texts are. They decide
what the natural order says, which is a total order.

* `compareRound_cases`: what one round does.
* `compareWithin_eq_some`: the rounds end, with the natural order of the texts.
* `naturalOrder_total_order`: the natural order is a total order on all labels. -/

namespace PortRoster.Text

/-- One round of the comparison: two runs of digits or two other characters are compared, and if
they are equal, the texts behind them remain. If one text is at its end, the other one is longer. -/
def compareRound : List Char → List Char → Ordering ⊕ (List Char × List Char)
  | c :: cs, d :: ds =>
    if c.isDigit && d.isDigit then
      match Piece.compareRuns (c :: cs.takeWhile Char.isDigit)
        (d :: ds.takeWhile Char.isDigit) with
      | .eq => .inr (cs.dropWhile Char.isDigit, ds.dropWhile Char.isDigit)
      | order => .inl order
    else if c = d then .inr (cs, ds)
    else .inl (compare c d)
  | cs, ds => .inl (compare (String.ofList cs).utf8ByteSize (String.ofList ds).utf8ByteSize)

/-- The decision, if it is made within a number of rounds. -/
def compareWithin : Nat → List Char → List Char → Option Ordering
  | 0, _, _ => none
  | rounds + 1, cs, ds =>
    match compareRound cs ds with
    | .inl order => some order
    | .inr (cs', ds') => compareWithin rounds cs' ds'

/-- The natural order of two texts, piece by piece. -/
def pieceOrder (cs ds : List Char) : Ordering :=
  List.compareLex Piece.order (pieces cs) (pieces ds)

theorem pieces_digit {c : Char} (cs : List Char) (h : c.isDigit) :
    pieces (c :: cs) =
      .digits (c :: cs.takeWhile Char.isDigit) :: pieces (cs.dropWhile Char.isDigit) := by
  rw [pieces, if_pos h]

theorem pieces_other {c : Char} (cs : List Char) (h : ¬ c.isDigit) :
    pieces (c :: cs) = .other c :: pieces cs := by
  rw [pieces, if_neg h]

theorem pieces_ne_nil (c : Char) (cs : List Char) : pieces (c :: cs) ≠ [] := by
  by_cases h : c.isDigit
  · rw [pieces_digit cs h]
    exact List.cons_ne_nil _ _
  · rw [pieces_other cs h]
    exact List.cons_ne_nil _ _

theorem pieceOrder_of_ne {c d : Char} (cs ds : List Char) (h : ¬ (c.isDigit ∧ d.isDigit))
    (hne : c ≠ d) : pieceOrder (c :: cs) (d :: ds) = compare c d := by
  have hdec (o : Ordering) : (compare c d).then o = compare c d := by
    cases hcd : compare c d with
    | eq => exact absurd (Std.LawfulEqCmp.eq_of_compare hcd) hne
    | lt | gt => rfl
  unfold pieceOrder
  by_cases hc : c.isDigit
  · have hd : ¬ d.isDigit := fun hd => h ⟨hc, hd⟩
    rw [pieces_digit cs hc, pieces_other ds hd, List.compareLex_cons_cons]
    exact hdec _
  · by_cases hd : d.isDigit
    · rw [pieces_other cs hc, pieces_digit ds hd, List.compareLex_cons_cons]
      exact hdec _
    · rw [pieces_other cs hc, pieces_other ds hd, List.compareLex_cons_cons]
      exact hdec _

theorem pieceOrder_of_nil {cs ds : List Char} (h : cs = [] ∨ ds = []) :
    pieceOrder cs ds = compare (String.ofList cs).utf8ByteSize (String.ofList ds).utf8ByteSize := by
  have hnil : pieces [] = [] := by rw [pieces]
  have hsize (c : Char) (l : List Char) : 0 < (String.ofList (c :: l)).utf8ByteSize := by
    refine Nat.pos_of_ne_zero fun h0 => ?_
    have hempty := congrArg String.toList (String.utf8ByteSize_eq_zero_iff.1 h0)
    rw [String.toList_ofList] at hempty
    cases hempty
  have hzero : (String.ofList []).utf8ByteSize = 0 := rfl
  unfold pieceOrder
  cases cs with
  | nil =>
    cases ds with
    | nil => rw [hnil]; rfl
    | cons d ds =>
      rw [hzero, Nat.compare_eq_lt.2 (hsize d ds), hnil]
      cases hp : pieces (d :: ds) with
      | nil => exact absurd hp (pieces_ne_nil d ds)
      | cons p ps => rfl
  | cons c cs =>
    have hds : ds = [] := h.resolve_left (List.cons_ne_nil _ _)
    subst hds
    rw [hzero, Nat.compare_eq_gt.2 (hsize c cs), hnil]
    cases hp : pieces (c :: cs) with
    | nil => exact absurd hp (pieces_ne_nil c cs)
    | cons p ps => rfl

/-- **What one round does.** It decides as the texts compare, or it leaves less of both texts, and
what is left compares as the texts do. -/
theorem compareRound_cases (cs ds : List Char) :
    compareRound cs ds = .inl (pieceOrder cs ds) ∨
      ∃ cs' ds', compareRound cs ds = .inr (cs', ds') ∧ cs'.length < cs.length ∧
        ds'.length < ds.length ∧ pieceOrder cs ds = pieceOrder cs' ds' := by
  cases cs with
  | nil =>
    rw [pieceOrder_of_nil (.inl rfl)]
    exact .inl rfl
  | cons c cs =>
    cases ds with
    | nil =>
      rw [pieceOrder_of_nil (.inr rfl)]
      exact .inl rfl
    | cons d ds =>
      by_cases h : c.isDigit ∧ d.isDigit
      · have hround : pieceOrder (c :: cs) (d :: ds) =
            (Piece.compareRuns (c :: cs.takeWhile Char.isDigit)
              (d :: ds.takeWhile Char.isDigit)).then
              (pieceOrder (cs.dropWhile Char.isDigit) (ds.dropWhile Char.isDigit)) := by
          unfold pieceOrder
          rw [pieces_digit cs h.1, pieces_digit ds h.2, List.compareLex_cons_cons]
          rfl
        rw [compareRound, if_pos (by simp [h]), hround]
        split
        · next heq =>
          refine .inr ⟨_, _, rfl, ?_, ?_, by rw [heq]; rfl⟩
          · exact Nat.lt_succ_of_le (List.dropWhile_sublist _).length_le
          · exact Nat.lt_succ_of_le (List.dropWhile_sublist _).length_le
        · next hne =>
          left
          cases hruns : Piece.compareRuns (c :: cs.takeWhile Char.isDigit)
              (d :: ds.takeWhile Char.isDigit) with
          | eq => exact absurd hruns hne
          | lt | gt => rfl
      · rw [compareRound, if_neg (by simpa using h)]
        by_cases hcd : c = d
        · subst hcd
          have hc : ¬ c.isDigit := fun hc => h ⟨hc, hc⟩
          rw [if_pos rfl]
          refine .inr ⟨cs, ds, rfl, Nat.lt_succ_self _, Nat.lt_succ_self _, ?_⟩
          unfold pieceOrder
          rw [pieces_other cs hc, pieces_other ds hc, List.compareLex_cons_cons]
          have hself : Piece.order (.other c) (.other c) = .eq := by
            show compare c c = .eq
            exact Std.ReflCmp.compare_self
          rw [hself]
          rfl
        · rw [if_neg hcd, pieceOrder_of_ne cs ds h hcd]
          exact .inl rfl

/-- **The rounds end, with the natural order of the texts.** One round more than the shorter text
has characters is always enough. -/
theorem compareWithin_eq_some {rounds : Nat} {cs ds : List Char}
    (h : min cs.length ds.length < rounds) :
    compareWithin rounds cs ds = some (pieceOrder cs ds) := by
  induction rounds generalizing cs ds with
  | zero => exact absurd h (Nat.not_lt_zero _)
  | succ rounds ih =>
    rw [compareWithin]
    rcases compareRound_cases cs ds with hdec | ⟨cs', ds', hgo, hcs, hds, horder⟩
    · rw [hdec]
    · rw [hgo, horder]
      exact ih (by omega)

/-- **The natural order is a total order on all labels.** Comparing from left to right ends for
every two labels, with their natural order. Only identical labels compare equal, exchanging the
labels reverses the result, and the order is transitive. -/
theorem naturalOrder_total_order :
    (∀ (a b : String) (rounds : Nat), min a.length b.length < rounds →
      compareWithin rounds a.toList b.toList = some (naturalOrder a b)) ∧
    (∀ a b : String, naturalOrder a b = .eq ↔ a = b) ∧
    (∀ a b : String, naturalOrder b a = (naturalOrder a b).swap) ∧
    ∀ a b c : String, naturalOrder a b ≠ .gt → naturalOrder b c ≠ .gt →
      naturalOrder a c ≠ .gt := by
  refine ⟨?_, ?_, ?_, ?_⟩
  · intro a b rounds h
    exact compareWithin_eq_some (by rwa [String.length_toList, String.length_toList])
  · exact fun a b => Std.LawfulEqCmp.compare_eq_iff_eq
  · exact fun a b => Std.OrientedCmp.eq_swap
  · intro a b c hab hbc
    exact Ordering.isLE_iff_ne_gt.1
      (naturalLe_trans (Ordering.isLE_iff_ne_gt.2 hab) (Ordering.isLE_iff_ne_gt.2 hbc))

/-- `COM2:`, `COM10:` and `COM010:` stand in this order, and seven rounds are enough to tell the
last two apart. -/
theorem naturalOrder_total_order_com :
    compareWithin 7 "COM10:".toList "COM010:".toList = some (naturalOrder "COM10:" "COM010:") ∧
      naturalOrder "COM2:" "COM010:" ≠ .gt := by
  obtain ⟨hends, -, -, htrans⟩ := naturalOrder_total_order
  refine ⟨hends _ _ 7 (by decide), htrans "COM2:" "COM10:" "COM010:" ?_ ?_⟩
  · decide +kernel
  · decide +kernel

end PortRoster.Text
