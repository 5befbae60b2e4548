import PortRoster.Document.Json.ReadBack
import PortRoster.Proofs.Text.Run

/-! # JSON values read back

A value that is written as JSON is read back, on one line or on many, whatever texts it holds.
Numbers with a fraction and points in time are kept as texts by the writer, so values with these are
left out; whole numbers are read back if they fit in 64 bits (`Data.Kept`).

A number has no closing mark. So what follows a value must not go on with it (`EndsNumber`), and the
proof says at each place why it does not: there stands a comma, a bracket or a gap. The number of
steps is counted by the length of the text that is still to be read; each step takes a character, or
is the first one on its level.

* `readNumber_integer`: a whole number is read back.
* `readValue_write`: a value is read back, and what follows it is left.
* `read_pretty`: so is a text that holds nothing but the value. -/

namespace PortRoster

mutual

/-- The value is one that JSON keeps. -/
def Data.Kept : Data → Prop
  | .null | .boolean _ | .text _ => True
  | .integer n => -(Nat.pow 2 63 : Nat) ≤ n ∧ n < (Nat.pow 2 64 : Nat)
  | .real _ | .moment _ => False
  | .list items => Data.KeptItems items
  | .table rows => Data.KeptRows rows

/-- The items of a list are values that JSON keeps. -/
def Data.KeptItems : List Data → Prop
  | [] => True
  | d :: items => d.Kept ∧ Data.KeptItems items

/-- The rows of a table hold values that JSON keeps. -/
def Data.KeptRows : List (String × Data) → Prop
  | [] => True
  | (_, d) :: rows => d.Kept ∧ Data.KeptRows rows

end

namespace Json

open Text

/-! ### Numbers -/

/-- A character that may go on with a number. -/
def isNumeric (c : Char) : Bool := c.isDigit || c == '.' || c == 'e' || c == 'E'

/-- What follows does not go on with a number. -/
abbrev EndsNumber (rest : List Char) : Prop := Stops isNumeric rest

variable {rest : List Char}

theorem EndsNumber.digits (h : EndsNumber rest) : Stops Char.isDigit rest := by
  intro c hc
  have := h c hc
  simp only [isNumeric, Bool.or_eq_false_iff] at this
  exact this.1.1.1

theorem digits1_decimal (n : Nat) (h : EndsNumber rest) :
    digits1 (decimal n ++ rest) = some (decimal n, rest) := by
  have hrun : ∀ c ∈ decimal n, c.isDigit := fun c hc => isDigit_of_mem_decimal hc
  unfold digits1
  rw [takeWhile_run hrun h.digits, dropWhile_run hrun h.digits]
  split
  · next hn => exact absurd hn (decimal_ne_nil n)
  · rfl

theorem readWhole_decimal (n : Nat) (h : EndsNumber rest) :
    readWhole (decimal n ++ rest) = some (decimal n, rest) := by
  rcases Nat.eq_zero_or_pos n with rfl | hn
  · have hany : ¬ rest.head?.any Char.isDigit := by
      intro hany
      obtain ⟨hs, hd⟩ := (Option.any_eq_true_iff_get _ _).1 hany
      rw [h.digits _ (Option.some_get hs).symm] at hd
      cases hd
    exact if_neg hany
  · have hd := digits1_decimal n h
    have hhead := head?_decimal hn
    obtain ⟨c, cs, hc, -⟩ := exists_decimal n
    rw [hc] at hd hhead ⊢
    have hzero : c ≠ '0' := fun h0 => hhead (congrArg some h0)
    rw [← hd, List.cons_append, readWhole]
    exact fun _ h0 => hzero (List.cons.inj h0).1

theorem readFraction_of_ends (h : EndsNumber rest) : readFraction rest = some ([], rest) := by
  unfold readFraction
  split
  · have := h '.' rfl
    cases this
  · rfl

theorem readExponent_of_ends (h : EndsNumber rest) : readExponent rest = some ([], rest) := by
  unfold readExponent
  split
  · next c cs =>
    rw [if_neg]
    rintro (rfl | rfl)
    · exact absurd (h 'e' rfl) (by decide)
    · exact absurd (h 'E' rfl) (by decide)
  · rfl

theorem foldl_whole (n : Nat) :
    (decimal n).foldl (fun m c => m * 10 + (c.toNat - '0'.toNat)) 0 = n :=
  foldl_decimal (fun _ _ => rfl) n

theorem numberOf_decimal {n : Nat} (h : n < Nat.pow 2 64) :
    numberOf false (decimal n) [] [] = .integer n := by
  unfold numberOf
  simp only [foldl_whole, Bool.false_eq_true, if_false, and_self, if_true]
  exact if_pos h

theorem numberOf_negative {n : Nat} (hpos : n ≠ 0) (h : n ≤ Nat.pow 2 63) :
    numberOf true (decimal n) [] [] = .integer (-(n : Int)) := by
  unfold numberOf
  simp only [foldl_whole, and_self, if_true]
  exact if_pos ⟨hpos, h⟩

theorem readNumber_decimal {n : Nat} (hn : n < Nat.pow 2 64) (h : EndsNumber rest) :
    readNumber (decimal n ++ rest) = some (.integer n, rest) := by
  have hwhole := readWhole_decimal n h
  have hnumber := numberOf_decimal hn
  obtain ⟨c, cs, hc, hd⟩ := exists_decimal n
  have hsign : c ≠ '-' := ne_of_isDigit hd rfl
  rw [hc] at hwhole hnumber ⊢
  rw [List.cons_append] at hwhole ⊢
  simp [readNumber, hsign, hwhole, readFraction_of_ends h, readExponent_of_ends h, hnumber]

theorem readNumber_negative {n : Nat} (hpos : n ≠ 0) (hn : n ≤ Nat.pow 2 63)
    (h : EndsNumber rest) :
    readNumber ('-' :: decimal n ++ rest) = some (.integer (-(n : Int)), rest) := by
  simp [readNumber, readWhole_decimal n h, readFraction_of_ends h, readExponent_of_ends h,
    numberOf_negative hpos hn]

/-- **A whole number is read back.** -/
theorem readNumber_integer {n : Int} (hlow : -(Nat.pow 2 63 : Nat) ≤ n)
    (hhigh : n < (Nat.pow 2 64 : Nat)) (h : EndsNumber rest) :
    readNumber (integer n ++ rest) = some (.integer n, rest) := by
  unfold integer
  split
  · next hneg =>
    have hback : -(n.natAbs : Int) = n := by omega
    rw [readNumber_negative (by omega) (by omega) h, hback]
  · next hpos =>
    have hback : (n.natAbs : Int) = n := by omega
    rw [readNumber_decimal (by omega) h, hback]

/-! ### Gaps and heads -/

/-- The parts of a value are set apart by gaps alone. -/
structure Layout.IsGapped (layout : Layout) : Prop where
  gap : ∀ level, ∀ c ∈ layout.gap level, isGap c
  colon : ∃ after, layout.colon = ':' :: after ∧ ∀ c ∈ after, isGap c

theorem isGapped_line : Layout.line.IsGapped :=
  ⟨fun _ _ h => absurd h List.not_mem_nil, [], rfl, fun _ h => absurd h List.not_mem_nil⟩

theorem isGapped_pretty : Layout.pretty.IsGapped where
  gap level c h := by
    rcases List.mem_cons.1 h with rfl | h
    · rfl
    · rw [List.eq_of_mem_replicate h]
      rfl
  colon := ⟨[' '], rfl, fun c h => by rw [List.mem_singleton.1 h]; rfl⟩

variable {front cs : List Char} {c : Char}

theorem skip_cons (h : isGap c = false) : skip (c :: cs) = c :: cs := (stops_cons h).dropWhile

theorem skip_append (h : ∀ c ∈ front, isGap c) : skip (front ++ cs) = skip cs :=
  List.dropWhile_append_of_pos h

theorem readValue_append (h : ∀ c ∈ front, isGap c) (fuel : Nat) :
    readValue fuel (front ++ cs) = readValue fuel cs := by
  cases fuel with
  | zero => rfl
  | succ fuel =>
    unfold readValue
    rw [skip_append h]

theorem readItems_append (h : ∀ c ∈ front, isGap c) (fuel : Nat) :
    readItems fuel (front ++ cs) = readItems fuel cs := by
  cases fuel with
  | zero => rfl
  | succ fuel =>
    unfold readItems
    rw [readValue_append h]

theorem readRows_append (h : ∀ c ∈ front, isGap c) (fuel : Nat) :
    readRows fuel (front ++ cs) = readRows fuel cs := by
  cases fuel with
  | zero => rfl
  | succ fuel =>
    unfold readRows
    rw [skip_append h]

theorem EndsNumber.append (h : EndsNumber rest) (hfront : ∀ c ∈ front, isGap c) :
    EndsNumber (front ++ rest) := by
  cases front with
  | nil => exact h
  | cons c front =>
    have hc := hfront c List.mem_cons_self
    refine stops_cons ?_
    simp only [isGap, Bool.or_eq_true, beq_iff_eq] at hc
    rcases hc with ((rfl | rfl) | rfl) | rfl <;> rfl

theorem ne_of_numeric {c d : Char} (h : c = '-' ∨ c.isDigit) (hs : d ≠ '-')
    (hd : d.isDigit = false) : c ≠ d := by
  rcases h with rfl | h
  · exact hs.symm
  · exact ne_of_isDigit h hd

theorem exists_integer (n : Int) : ∃ c cs, integer n = c :: cs ∧ (c = '-' ∨ c.isDigit) := by
  unfold integer
  split
  · exact ⟨_, _, rfl, .inl rfl⟩
  · obtain ⟨c, cs, hc, hd⟩ := exists_decimal n.natAbs
    exact ⟨c, cs, hc, .inr hd⟩

theorem exists_write (layout : Layout) (level : Nat) {d : Data} (h : d.Kept) :
    ∃ c cs, write layout level d = c :: cs ∧ isGap c = false ∧ c ≠ ']' := by
  cases d with
  | null => exact ⟨_, _, rfl, by decide⟩
  | boolean b => cases b <;> exact ⟨_, _, rfl, by decide⟩
  | integer n =>
    obtain ⟨c, cs, hc, hn⟩ := exists_integer n
    refine ⟨c, cs, hc, ?_, ne_of_numeric hn (by decide) rfl⟩
    simp [isGap, ne_of_numeric hn (d := ' ') (by decide) rfl,
      ne_of_numeric hn (d := '\n') (by decide) rfl, ne_of_numeric hn (d := '\r') (by decide) rfl,
      ne_of_numeric hn (d := '\t') (by decide) rfl]
  | real literal => exact h.elim
  | moment literal => exact h.elim
  | text s => exact ⟨_, _, rfl, by decide⟩
  | list items =>
    unfold write bracketed
    split <;> exact ⟨_, _, rfl, by decide⟩
  | table rows =>
    unfold write bracketed
    split <;> exact ⟨_, _, rfl, by decide⟩

/-! ### Values -/

theorem readValue_eq_readAtom (fuel : Nat) (hgap : isGap c = false) (hlist : c ≠ '[')
    (htable : c ≠ '\x7b') : readValue (fuel + 1) (c :: cs) = readAtom (c :: cs) := by
  unfold readValue
  rw [skip_cons hgap]
  split
  · next h => exact absurd (List.cons.inj h).1 hlist
  · next h => exact absurd (List.cons.inj h).1 htable
  · rfl

theorem readAtom_eq_readNumber (h : c = '-' ∨ c.isDigit) :
    readAtom (c :: cs) = readNumber (c :: cs) := by
  have hne {d : Char} : d ≠ '-' → d.isDigit = false → c ≠ d := ne_of_numeric h
  unfold readAtom
  split
  · next h => exact absurd (List.cons.inj h).1 (hne (by decide) rfl)
  · next h => exact absurd (List.cons.inj h).1 (hne (by decide) rfl)
  · next h => exact absurd (List.cons.inj h).1 (hne (by decide) rfl)
  · next h => exact absurd (List.cons.inj h).1 (hne (by decide) rfl)
  · rfl

theorem readValue_atom (layout : Layout) (level fuel : Nat) {d : Data} (hk : d.Kept)
    (hlist : ∀ items, d ≠ .list items) (htable : ∀ rows, d ≠ .table rows) (h : EndsNumber rest) :
    readValue (fuel + 1) (write layout level d ++ rest) = some (d, rest) := by
  cases d with
  | null => exact readValue_eq_readAtom fuel (by decide) (by decide) (by decide)
  | boolean b => cases b <;> exact readValue_eq_readAtom fuel (by decide) (by decide) (by decide)
  | integer n =>
    obtain ⟨_, _, hwrite, hgap, -⟩ := exists_write layout level hk
    have hread := readNumber_integer hk.1 hk.2 h
    obtain ⟨c, cs, hc, hn⟩ := exists_integer n
    obtain ⟨rfl, -⟩ := List.cons.inj (hwrite.symm.trans hc)
    show readValue (fuel + 1) (integer n ++ rest) = _
    rw [hc, List.cons_append] at hread ⊢
    rw [readValue_eq_readAtom fuel hgap (ne_of_numeric hn (by decide) rfl)
      (ne_of_numeric hn (by decide) rfl), readAtom_eq_readNumber hn, hread]
  | text s =>
    show readValue (fuel + 1) (quoted s.toList ++ rest) = _
    have hread := readAtom_quoted s.toList rest
    rw [String.ofList_toList] at hread
    exact (readValue_eq_readAtom fuel (by decide) (by decide) (by decide)).trans hread
  | real literal => exact hk.elim
  | moment literal => exact hk.elim
  | list items => exact absurd rfl (hlist items)
  | table rows => exact absurd rfl (htable rows)

theorem exists_fuel {layout : Layout} {level fuel : Nat} {d : Data} (hk : d.Kept)
    (hf : 2 * (write layout level d).length ≤ fuel) : ∃ more, fuel = more + 1 := by
  obtain ⟨c, cs, hwrite, -⟩ := exists_write layout level hk
  rw [hwrite, List.length_cons] at hf
  exact ⟨fuel - 1, by omega⟩

/-! ### Lists and tables, one part at a time -/

section

variable (layout : Layout) (level : Nat)

/-- The text of the items of a list. -/
def itemsText (items : List Data) : List Char :=
  (',' :: layout.gap level).intercalate (writeItems layout level items)

/-- The text of the rows of a table. -/
def rowsText (rows : List (String × Data)) : List Char :=
  (',' :: layout.gap level).intercalate (writeRows layout level rows)

/-- The text of a row. -/
def rowText (row : String × Data) : List Char :=
  quoted row.1.toList ++ layout.colon ++ write layout level row.2

theorem itemsText_singleton (d : Data) : itemsText layout level [d] = write layout level d := by
  rw [itemsText, writeItems, writeItems, List.intercalate_singleton]

theorem itemsText_cons (d e : Data) (items : List Data) :
    itemsText layout level (d :: e :: items) =
      write layout level d ++ ',' :: (layout.gap level ++ itemsText layout level (e :: items)) := by
  rw [itemsText, writeItems, writeItems, List.intercalate_cons_cons, itemsText, writeItems]
  simp

theorem rowsText_singleton (row : String × Data) :
    rowsText layout level [row] = rowText layout level row := by
  rw [rowsText, writeRows, writeRows, List.intercalate_singleton, rowText]

theorem rowsText_cons (row next : String × Data) (rows : List (String × Data)) :
    rowsText layout level (row :: next :: rows) = rowText layout level row ++
      ',' :: (layout.gap level ++ rowsText layout level (next :: rows)) := by
  rw [rowsText, writeRows, writeRows, List.intercalate_cons_cons, rowsText, writeRows, rowText]
  simp

theorem write_list (d : Data) (items : List Data) :
    write layout level (.list (d :: items)) = '[' :: (layout.gap (level + 1) ++
      (itemsText layout (level + 1) (d :: items) ++ (layout.gap level ++ [']']))) := by
  simp [write, writeItems, bracketed, itemsText]

theorem write_table (row : String × Data) (rows : List (String × Data)) :
    write layout level (.table (row :: rows)) = '\x7b' :: (layout.gap (level + 1) ++
      (rowsText layout (level + 1) (row :: rows) ++ (layout.gap level ++ ['\x7d']))) := by
  simp [write, writeRows, bracketed, rowsText]

theorem exists_itemsText {d : Data} (hk : d.Kept) (items : List Data) :
    ∃ c cs, itemsText layout level (d :: items) = c :: cs ∧ isGap c = false ∧ c ≠ ']' := by
  obtain ⟨c, cs, hwrite, hc⟩ := exists_write layout level hk
  cases items with
  | nil => exact ⟨c, cs, by rw [itemsText_singleton, hwrite], hc⟩
  | cons e items => exact ⟨c, _, by rw [itemsText_cons, hwrite, List.cons_append], hc⟩

theorem exists_rowsText (row : String × Data) (rows : List (String × Data)) :
    ∃ cs, rowsText layout level (row :: rows) = '"' :: cs := by
  cases rows with
  | nil => exact ⟨_, by rw [rowsText_singleton]; rfl⟩
  | cons next rows => exact ⟨_, by rw [rowsText_cons]; rfl⟩

end

section

variable {layout : Layout} (hl : layout.IsGapped) {level fuel : Nat} {tail text : List Char}
  {d : Data}

theorem skip_closing {c : Char} (ht : ∀ c ∈ tail, isGap c) (hc : isGap c = false) :
    skip (tail ++ c :: rest) = c :: rest := by
  rw [skip_append ht, skip_cons hc]

theorem skip_quote : skip ('"' :: cs) = '"' :: cs := skip_cons (by decide)

theorem skip_colon : skip (':' :: cs) = ':' :: cs := skip_cons (by decide)

theorem readItems_last (ht : ∀ c ∈ tail, isGap c)
    (h : readValue fuel (text ++ (tail ++ ']' :: rest)) = some (d, tail ++ ']' :: rest)) :
    readItems (fuel + 1) (text ++ (tail ++ ']' :: rest)) = some ([d], rest) := by
  have hskip : skip (tail ++ ']' :: rest) = ']' :: rest := skip_closing ht (by decide)
  simp [readItems, h, hskip]

theorem readItems_more {items : List Data}
    (h : readValue fuel (text ++ ',' :: cs) = some (d, ',' :: cs))
    (hmore : readItems fuel cs = some (items, rest)) :
    readItems (fuel + 1) (text ++ ',' :: cs) = some (d :: items, rest) := by
  have hskip : skip (',' :: cs) = ',' :: cs := skip_cons (by decide)
  simp [readItems, h, hskip, hmore]

include hl

theorem readValue_list (hk : d.Kept) {items : List Data}
    (h : readItems fuel (itemsText layout (level + 1) (d :: items) ++
      (layout.gap level ++ ']' :: rest)) = some (d :: items, rest)) :
    readValue (fuel + 1) (write layout level (.list (d :: items)) ++ rest) =
      some (.list (d :: items), rest) := by
  obtain ⟨c, cs, htext, hgap, hc⟩ := exists_itemsText layout (level + 1) hk items
  have hopen (more : List Char) : skip ('[' :: more) = '[' :: more := skip_cons (by decide)
  rw [write_list, List.cons_append, List.append_assoc, List.append_assoc, List.append_assoc]
  rw [htext, List.cons_append] at h ⊢
  simp [readValue, hopen, skip_closing (hl.gap (level + 1)) hgap, hc, h]

theorem readValue_table {row : String × Data} {rows : List (String × Data)}
    (h : readRows fuel (rowsText layout (level + 1) (row :: rows) ++
      (layout.gap level ++ '\x7d' :: rest)) = some (row :: rows, rest)) :
    readValue (fuel + 1) (write layout level (.table (row :: rows)) ++ rest) =
      some (.table (row :: rows), rest) := by
  obtain ⟨cs, htext⟩ := exists_rowsText layout (level + 1) row rows
  have hopen (more : List Char) : skip ('\x7b' :: more) = '\x7b' :: more := skip_cons (by decide)
  have hquote (more : List Char) : skip (layout.gap (level + 1) ++ '"' :: more) = '"' :: more :=
    skip_closing (hl.gap _) (by decide)
  rw [write_table, List.cons_append, List.append_assoc, List.append_assoc, List.append_assoc]
  rw [htext, List.cons_append] at h ⊢
  simp [readValue, hopen, hquote, h]

theorem readRows_last (name : String) (ht : ∀ c ∈ tail, isGap c)
    (h : readValue fuel (write layout level d ++ (tail ++ '\x7d' :: rest)) =
      some (d, tail ++ '\x7d' :: rest)) :
    readRows (fuel + 1) (rowText layout level (name, d) ++ (tail ++ '\x7d' :: rest)) =
      some ([(name, d)], rest) := by
  obtain ⟨after, hcolon, hafter⟩ := hl.colon
  have hskip : skip (tail ++ '\x7d' :: rest) = '\x7d' :: rest := skip_closing ht (by decide)
  simp [readRows, rowText, quoted, hcolon, skip_quote, skip_colon, readText_quoted,
    Text.afterStart?, readValue_append hafter, h, hskip]

theorem readRows_more {rows : List (String × Data)} (name : String)
    (h : readValue fuel (write layout level d ++ ',' :: cs) = some (d, ',' :: cs))
    (hmore : readRows fuel cs = some (rows, rest)) :
    readRows (fuel + 1) (rowText layout level (name, d) ++ ',' :: cs) =
      some ((name, d) :: rows, rest) := by
  obtain ⟨after, hcolon, hafter⟩ := hl.colon
  have hskip : skip (',' :: cs) = ',' :: cs := skip_cons (by decide)
  simp [readRows, rowText, quoted, hcolon, skip_quote, skip_colon, readText_quoted,
    Text.afterStart?, readValue_append hafter, h, hskip, hmore]

end

/-! ### Whole values -/

section

variable {layout : Layout} (hl : layout.IsGapped)
include hl

mutual

/-- **A value is read back, and what follows it is left.** The cases are those of the value, with
the items and rows of lists and tables one by one. -/
theorem readValue_write (level fuel : Nat) (rest : List Char) :
    (d : Data) → d.Kept → EndsNumber rest → 2 * (write layout level d).length ≤ fuel →
    readValue fuel (write layout level d ++ rest) = some (d, rest)
  | .list [], hk, _, hf => by
    obtain ⟨fuel, rfl⟩ := exists_fuel hk hf
    rfl
  | .list (d :: items), hk, _, hf => by
    obtain ⟨fuel, rfl⟩ := exists_fuel hk hf
    rw [write_list] at hf
    simp only [List.length_cons, List.length_append, List.length_nil] at hf
    refine readValue_list hl hk.1 ?_
    exact readItems_write (level + 1) fuel (layout.gap level) rest (d :: items) nofun hk
      (hl.gap level) (by omega)
  | .table [], hk, _, hf => by
    obtain ⟨fuel, rfl⟩ := exists_fuel hk hf
    rfl
  | .table (row :: rows), hk, _, hf => by
    obtain ⟨fuel, rfl⟩ := exists_fuel hk hf
    rw [write_table] at hf
    simp only [List.length_cons, List.length_append, List.length_nil] at hf
    refine readValue_table hl ?_
    exact readRows_write (level + 1) fuel (layout.gap level) rest (row :: rows) nofun hk
      (hl.gap level) (by omega)
  | .null, hk, hr, hf | .boolean _, hk, hr, hf | .integer _, hk, hr, hf | .text _, hk, hr, hf
  | .real _, hk, hr, hf | .moment _, hk, hr, hf => by
    obtain ⟨fuel, rfl⟩ := exists_fuel hk hf
    exact readValue_atom layout level fuel hk nofun nofun hr

theorem readItems_write (level fuel : Nat) (tail rest : List Char) :
    (items : List Data) → items ≠ [] → Data.KeptItems items → (∀ c ∈ tail, isGap c) →
    2 * (itemsText layout level items).length + 1 ≤ fuel →
    readItems fuel (itemsText layout level items ++ (tail ++ ']' :: rest)) = some (items, rest)
  | [], h, _, _, _ => absurd rfl h
  | [d], _, hk, ht, hf => by
    obtain ⟨fuel, rfl⟩ : ∃ n, fuel = n + 1 := ⟨fuel - 1, by omega⟩
    rw [itemsText_singleton] at hf ⊢
    have hends : EndsNumber (tail ++ ']' :: rest) := EndsNumber.append (stops_cons rfl) ht
    exact readItems_last ht (readValue_write level fuel _ d hk.1 hends (by omega))
  | d :: e :: items, _, hk, ht, hf => by
    obtain ⟨fuel, rfl⟩ : ∃ n, fuel = n + 1 := ⟨fuel - 1, by omega⟩
    rw [itemsText_cons] at hf ⊢
    simp only [List.length_append, List.length_cons] at hf
    rw [List.append_assoc, List.cons_append, List.append_assoc]
    refine readItems_more (readValue_write level fuel _ d hk.1 (stops_cons rfl) (by omega)) ?_
    rw [readItems_append (hl.gap level)]
    exact readItems_write level fuel tail rest (e :: items) nofun hk.2 ht (by omega)

theorem readRows_write (level fuel : Nat) (tail rest : List Char) :
    (rows : List (String × Data)) → rows ≠ [] → Data.KeptRows rows → (∀ c ∈ tail, isGap c) →
    2 * (rowsText layout level rows).length + 1 ≤ fuel →
    readRows fuel (rowsText layout level rows ++ (tail ++ '\x7d' :: rest)) = some (rows, rest)
  | [], h, _, _, _ => absurd rfl h
  | [(name, d)], _, hk, ht, hf => by
    obtain ⟨fuel, rfl⟩ : ∃ n, fuel = n + 1 := ⟨fuel - 1, by omega⟩
    rw [rowsText_singleton] at hf ⊢
    simp only [rowText, List.length_append] at hf
    have hends : EndsNumber (tail ++ '\x7d' :: rest) := EndsNumber.append (stops_cons rfl) ht
    exact readRows_last hl name ht (readValue_write level fuel _ d hk.1 hends (by omega))
  | (name, d) :: row :: rows, _, hk, ht, hf => by
    obtain ⟨fuel, rfl⟩ : ∃ n, fuel = n + 1 := ⟨fuel - 1, by omega⟩
    rw [rowsText_cons] at hf ⊢
    simp only [rowText, List.length_append, List.length_cons] at hf
    rw [List.append_assoc, List.cons_append, List.append_assoc]
    refine readRows_more hl name
      (readValue_write level fuel _ d hk.1 (stops_cons rfl) (by omega)) ?_
    rw [readRows_append (hl.gap level)]
    exact readRows_write level fuel tail rest (row :: rows) nofun hk.2 ht (by omega)

end

end

/-- **A text that holds a value and gaps behind it is read back**, for every way in which gaps set
the parts of the value apart. -/
theorem read_write {layout : Layout} (hl : layout.IsGapped) (level : Nat) {d : Data} (hk : d.Kept)
    (tail : List Char) (ht : ∀ c ∈ tail, isGap c) :
    read (String.ofList (write layout level d ++ tail)) = some d := by
  have hends : EndsNumber tail := by
    have := EndsNumber.append stops_nil ht
    rwa [List.append_nil] at this
  have hfuel :
      2 * (write layout level d).length ≤ 2 * (write layout level d ++ tail).length + 2 := by
    rw [List.length_append]
    omega
  have hskip : skip tail = [] := by
    have h : skip (tail ++ []) = [] := skip_append ht
    rwa [List.append_nil] at h
  simp only [read, String.toList_ofList, readValue_write hl level _ tail d hk hends hfuel]
  exact if_pos hskip

/-- **A value on many lines is read back**, with or without a line end behind it. -/
theorem read_pretty {d : Data} (hk : d.Kept) :
    read (pretty d) = some d ∧ read (pretty d ++ "\n") = some d := by
  constructor
  · have h := read_write isGapped_pretty 0 hk [] nofun
    rwa [List.append_nil] at h
  · have hend : ∀ c ∈ ['\n'], isGap c := fun c h => by rw [List.mem_singleton.1 h]; rfl
    have h := read_write isGapped_pretty 0 hk ['\n'] hend
    rwa [String.ofList_append] at h

/-- **A value on one line is read back.** -/
theorem read_line {d : Data} (hk : d.Kept) : read (line d) = some d := by
  have h := read_write isGapped_line 0 hk [] nofun
  rwa [List.append_nil] at h

end Json

end PortRoster
