/-! # Sets of characters

A set of characters is held as its *changes*: the code points, in ascending order, at which
membership changes on the way up from zero. An operation on two sets walks along the changes of
both. -/

namespace PortRoster.Text

/-- The first and the last code point of a run. -/
abbrev Run := Nat × Nat

/-- Every second code point of a run, the first one included. -/
def everySecond (r : Run) : List Run :=
  (List.range ((r.2 - r.1) / 2 + 1)).map fun i => (r.1 + 2 * i, r.1 + 2 * i)

/-- A set of characters, by the code points at which membership changes. -/
structure CharSet where
  changes : List Nat
  ascending : changes.Pairwise (· < ·)
  deriving DecidableEq

namespace CharSet

/-- Membership behind some changes. -/
def holdsAt : List Nat → Nat → Bool
  | [], _ => false
  | p :: ps, n => if n < p then false else !holdsAt ps n

/-- The set has a code point. -/
def mem (s : CharSet) (n : Nat) : Bool := holdsAt s.changes n

/-- The set has a character. -/
def contains (s : CharSet) (c : Char) : Bool := s.mem c.toNat

/-- The set without members. -/
def empty : CharSet := ⟨[], List.Pairwise.nil⟩

/-- A change, if what holds behind it is not what holds in front. -/
def change (p : Nat) (before after : Bool) (rest : List Nat) : List Nat :=
  if before = after then rest else p :: rest

/-- The changes of a combination of two sets, from a place on where it is known what holds. -/
def combineChanges (op : Bool → Bool → Bool) (x y : Bool) : List Nat → List Nat → List Nat
  | [], qs => if op x false = op x true then [] else qs
  | p :: ps, [] => if op false y = op true y then [] else p :: ps
  | p :: ps, q :: qs =>
    if p < q then change p (op x y) (op (!x) y) (combineChanges op (!x) y ps (q :: qs))
    else if q < p then change q (op x y) (op x (!y)) (combineChanges op x (!y) (p :: ps) qs)
    else change p (op x y) (op (!x) (!y)) (combineChanges op (!x) (!y) ps qs)
  termination_by ps qs => ps.length + qs.length

theorem mem_of_mem_change {p r : Nat} {before after : Bool} {rest : List Nat}
    (h : r ∈ change p before after rest) : r = p ∨ r ∈ rest := by
  unfold change at h
  split at h
  · exact Or.inr h
  · exact List.mem_cons.1 h

theorem mem_of_mem_combineChanges {op : Bool → Bool → Bool} {x y : Bool} {ps qs : List Nat}
    {r : Nat} (h : r ∈ combineChanges op x y ps qs) : r ∈ ps ∨ r ∈ qs := by
  fun_induction combineChanges op x y ps qs with
  | case1 => simp at h
  | case2 => exact Or.inr h
  | case3 => simp at h
  | case4 => exact Or.inl h
  | case5 x y p ps q qs _ ih => have := mem_of_mem_change h; grind
  | case6 x y p ps q qs _ _ ih => have := mem_of_mem_change h; grind
  | case7 x y p ps q qs _ _ ih => have := mem_of_mem_change h; grind

theorem pairwise_change {p : Nat} {before after : Bool} {rest : List Nat}
    (hp : ∀ r ∈ rest, p < r) (hr : rest.Pairwise (· < ·)) :
    (change p before after rest).Pairwise (· < ·) := by
  unfold change
  split
  · exact hr
  · exact List.pairwise_cons.2 ⟨hp, hr⟩

theorem pairwise_combineChanges {op : Bool → Bool → Bool} {x y : Bool} {ps qs : List Nat}
    (hp : ps.Pairwise (· < ·)) (hq : qs.Pairwise (· < ·)) :
    (combineChanges op x y ps qs).Pairwise (· < ·) := by
  fun_induction combineChanges op x y ps qs with
  | case1 => exact List.Pairwise.nil
  | case2 => exact hq
  | case3 => exact List.Pairwise.nil
  | case4 => exact hp
  | case5 x y p ps q qs h ih =>
    rw [List.pairwise_cons] at hp
    refine pairwise_change (fun r hr => ?_) (ih hp.2 hq)
    have := mem_of_mem_combineChanges hr
    rw [List.pairwise_cons] at hq
    grind
  | case6 x y p ps q qs _ h ih =>
    rw [List.pairwise_cons] at hq
    refine pairwise_change (fun r hr => ?_) (ih hp hq.2)
    have := mem_of_mem_combineChanges hr
    rw [List.pairwise_cons] at hp
    grind
  | case7 x y p ps q qs h h' ih =>
    rw [List.pairwise_cons] at hp hq
    refine pairwise_change (fun r hr => ?_) (ih hp.2 hq.2)
    have := mem_of_mem_combineChanges hr
    grind

/-- The code points of which an operation holds, which does not hold of those in neither set. -/
def combine (op : Bool → Bool → Bool) (s t : CharSet) : CharSet :=
  ⟨combineChanges op false false s.changes t.changes,
    pairwise_combineChanges s.ascending t.ascending⟩

/-- The members of one of two sets. -/
def union (s t : CharSet) : CharSet := combine or s t

/-- The members of both of two sets. -/
def inter (s t : CharSet) : CharSet := combine and s t

/-- The members of a set that another one has not. -/
def diff (s t : CharSet) : CharSet := combine (fun x y => x && !y) s t

/-- The members of exactly one of two sets. -/
def symmDiff (s t : CharSet) : CharSet := combine xor s t

/-- The code points that a set has not. -/
def complement (s : CharSet) : CharSet :=
  match s with
  | ⟨0 :: ps, h⟩ => ⟨ps, (List.pairwise_cons.1 h).2⟩
  | ⟨[], _⟩ => ⟨[0], List.pairwise_singleton _ _⟩
  | ⟨(p + 1) :: ps, h⟩ => ⟨0 :: (p + 1) :: ps, List.pairwise_cons.2 ⟨fun r hr => by
      have := List.pairwise_cons.1 h
      grind, h⟩⟩

/-- A set or, negated, the code points that it has not. -/
def complementIf (s : CharSet) (negated : Bool) : CharSet := if negated then s.complement else s

theorem pairwise_run {r : Run} (h : r.1 ≤ r.2) : [r.1, r.2 + 1].Pairwise (· < ·) :=
  List.pairwise_pair.2 (Nat.lt_succ_of_le h)

/-- The code points of a run. -/
def ofRun (r : Run) : CharSet :=
  if h : r.1 ≤ r.2 then ⟨[r.1, r.2 + 1], pairwise_run h⟩ else empty

/-- The set of one code point. -/
def single (n : Nat) : CharSet := ofRun (n, n)

/-- The code points of all runs. -/
def ofRuns (rs : List Run) : CharSet := rs.foldr (fun r s => union (ofRun r) s) empty

/-- The members of some sets. -/
def unions (ss : List CharSet) : CharSet := ss.foldr union empty

/-- The runs of a set. A set that does not end reaches up to the last code point. -/
def runsOf : List Nat → List Run
  | [] => []
  | [p] => [(p, 0x10FFFF)]
  | p :: q :: ps => (p, q - 1) :: runsOf ps

/-- The runs of a set, in ascending order. -/
def runs (s : CharSet) : List Run := runsOf s.changes

end CharSet

end PortRoster.Text
