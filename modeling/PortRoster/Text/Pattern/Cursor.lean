import PortRoster.Text.Blank
import PortRoster.Text.Pattern.Fault

/-! # Reading the text of a pattern

A cursor stands at a place of the text. In a spaced text, blanks and comments between the signs do
not count. A sign that is well-formed and has no meaning does not stop the reading, since the text
may have a worse fault behind it. The cursor keeps the first such sign.

* `length_bumpSkip_lt`: the cursor moves on over a character that is there. -/

namespace PortRoster.Text.Pattern

/-- A place in the text of a pattern, with what follows. -/
structure Cursor where
  place : Nat
  rest : List Char
  /-- Blanks and comments do not count. -/
  spaced : Bool
  /-- The first sign without a meaning. -/
  refused : Option ReadError := none

/-- What follows blanks and comments, and its place. A comment ends with its line. -/
def skipBlanks : (comment : Bool) → Nat → List Char → Nat × List Char
  | _, n, [] => (n, [])
  | true, n, c :: cs => skipBlanks (c != '\n') (n + 1) cs
  | false, n, c :: cs =>
    if isBlank c then skipBlanks false (n + 1) cs
    else if c = '#' then skipBlanks true (n + 1) cs
    else (n, c :: cs)

namespace Cursor

/-- The cursor at the next sign. -/
def skip (c : Cursor) : Cursor :=
  if c.spaced then
    let (place, rest) := skipBlanks false c.place c.rest
    { c with place, rest }
  else c

/-- The cursor behind the next character. -/
def bump (c : Cursor) : Cursor :=
  match c.rest with
  | [] => c
  | _ :: rest => { c with place := c.place + 1, rest }

/-- The cursor at the sign behind the next character. -/
def bumpSkip (c : Cursor) : Cursor := c.bump.skip

/-- The next character. -/
def peek (c : Cursor) : Option Char := c.rest.head?

/-- Nothing follows. -/
def isDone (c : Cursor) : Bool := c.rest.isEmpty

/-- The sign behind blanks, and behind the blanks at the beginning of a comment. -/
def signBehindBlanks : (comment : Bool) → List Char → Option Char
  | _, [] => none
  | comment, c :: cs =>
    if isBlank c then signBehindBlanks comment cs
    else if c = '#' ∧ comment = false then signBehindBlanks true cs
    else some c

/-- The sign behind the next character. In a spaced text blanks are skipped, but of a comment no
more than its blanks. -/
def peekBehind (c : Cursor) : Option Char :=
  if c.spaced then (signBehindBlanks false c.rest.tail).or c.rest.tail.head?
  else c.rest.tail.head?

/-- The part from a place up to the cursor. -/
def since (c : Cursor) (first : Nat) : Part := ⟨first, c.place⟩

/-- The empty part at the cursor. -/
def here (c : Cursor) : Part := ⟨c.place, c.place⟩

/-- The cursor, which has met a sign without a meaning. -/
def refuse (c : Cursor) (fault : Fault) (part : Part) : Cursor :=
  { c with refused := c.refused.or (some (.fault fault [part])) }

/-- The next character as a part. -/
def sign (c : Cursor) : Part := ⟨c.place, c.place + 1⟩

theorem length_skipBlanks_le (comment : Bool) (n : Nat) (cs : List Char) :
    (skipBlanks comment n cs).2.length ≤ cs.length := by
  fun_induction skipBlanks comment n cs with
  | case1 => exact Nat.le_refl _
  | case2 n c cs ih => exact Nat.le_succ_of_le ih
  | case3 n c cs _ ih => exact Nat.le_succ_of_le ih
  | case4 n cs _ ih => exact Nat.le_succ_of_le ih
  | case5 => exact Nat.le_refl _

theorem length_skip_le (c : Cursor) : c.skip.rest.length ≤ c.rest.length := by
  unfold skip
  split
  · exact length_skipBlanks_le false c.place c.rest
  · exact Nat.le_refl _

/-- **The cursor moves on over a character that is there.** -/
theorem length_bumpSkip_lt {c : Cursor} {d : Char} (h : c.peek = some d) :
    c.bumpSkip.rest.length < c.rest.length := by
  obtain ⟨place, rest, spaced, refused⟩ := c
  cases rest with
  | nil => simp [peek] at h
  | cons e rest => exact Nat.lt_succ_of_le (length_skip_le ⟨place + 1, rest, spaced, refused⟩)

/-- The characters of a class that come next, and the cursor behind them. -/
def takeSigns (accepts : Char → Bool) (c : Cursor) : List Char × Cursor :=
  match _hd : c.peek with
  | some d =>
    if accepts d then
      let (ds, behind) := takeSigns accepts c.bumpSkip
      (d :: ds, behind)
    else ([], c)
  | none => ([], c)
  termination_by c.rest.length
  decreasing_by exact length_bumpSkip_lt _hd

end Cursor

/-- Stops reading because of a fault in one part. -/
def stopAt {α : Type} (fault : Fault) (part : Part) : Except ReadError α :=
  .error (.fault fault [part])

end PortRoster.Text.Pattern
