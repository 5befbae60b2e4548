/-! # Cutting texts

A text without a given beginning, a text cut at every place where a separator stands, and a text
whose lines are set in.

* `afterStart?_eq_some_iff`: what follows a beginning is what has to be added to it. -/

namespace PortRoster.Text

/-- The characters after a given beginning, if the text has it. -/
def afterStart? : (start cs : List Char) → Option (List Char)
  | [], cs => some cs
  | _ :: _, [] => none
  | s :: start, c :: cs => if s = c then afterStart? start cs else none

/-- The text begins with the given characters. -/
def startsWith (start cs : List Char) : Bool := (afterStart? start cs).isSome

/-- The text ends with the given characters. -/
def endsWith (ending cs : List Char) : Bool := startsWith ending.reverse cs.reverse

/-- The parts of a text between the places where the separator stands. -/
def cutAt (sep : Char) : List Char → List (List Char)
  | [] => [[]]
  | c :: cs =>
    if c = sep then [] :: cutAt sep cs
    else
      match cutAt sep cs with
      | [] => [[c]]
      | part :: parts => (c :: part) :: parts

/-- The text with every line after the first set in by some blanks. -/
def setIn (margin : Nat) (text : String) : String :=
  let lineBreak := String.ofList ('\n' :: List.replicate margin ' ')
  lineBreak.intercalate ((cutAt '\n' text.toList).map String.ofList)

/-- **What follows a beginning is what has to be added to it.** -/
theorem afterStart?_eq_some_iff {start cs rest : List Char} :
    afterStart? start cs = some rest ↔ cs = start ++ rest := by
  induction start generalizing cs with
  | nil => simp [afterStart?]
  | cons s start ih =>
    cases cs with
    | nil => simp [afterStart?]
    | cons c cs =>
      by_cases h : s = c
      · simp [afterStart?, h, ih]
      · simp [afterStart?, h, Ne.symm h]

theorem startsWith_iff {start cs : List Char} :
    startsWith start cs = true ↔ ∃ rest, cs = start ++ rest := by
  simp [startsWith, Option.isSome_iff_exists, afterStart?_eq_some_iff]

theorem endsWith_iff {ending cs : List Char} :
    endsWith ending cs = true ↔ ∃ front, cs = front ++ ending := by
  rw [endsWith, startsWith_iff]
  constructor
  · rintro ⟨rest, h⟩
    exact ⟨rest.reverse, by simpa using congrArg List.reverse h⟩
  · rintro ⟨front, rfl⟩
    exact ⟨front.reverse, by simp⟩

end PortRoster.Text
