import PortRoster.Document.Toml.ReadBack
import PortRoster.Document.Toml.Reader
import PortRoster.Document.Toml.Writer
import PortRoster.Proofs.Text.Run

/-! # A section read back

A section that is written as TOML is read back: a header, and under it a row for each text or
number. A row is read up to its line end, so each line is read on its own, and the rows are added to
one table one by one, under names that are all different.

A number is written in digits alone. A reader of words tries dates, times and numbers with a
fraction first, and each of these has a character that is no digit.

* `word?_decimal`: a number is read back.
* `readLine_header`, `readLine_row`: so are the lines of a section.
* `read_writeSection`: and so is the section. -/

namespace PortRoster.Toml

open Text

/-! ### Numbers -/

section Digits

variable {ds : List Char} (hd : ∀ c ∈ ds, c.isDigit)
include hd

theorem not_mem_of_digits {c : Char} (hc : c.isDigit = false) : c ∉ ds :=
  fun h => ne_of_isDigit (hd c h) hc rfl

theorem cutAt_digits {sep : Char} (hs : sep.isDigit = false) : cutAt sep ds = [ds] := by
  induction ds with
  | nil => rfl
  | cons c ds ih =>
    have hc : c ≠ sep := fun h => not_mem_of_digits hd hs (h ▸ List.mem_cons_self)
    simp [cutAt, hc, ih fun d hm => hd d (List.mem_cons_of_mem _ hm)]

theorem isDate_digits : isDate ds = false := by
  unfold isDate
  rw [cutAt_digits hd (by decide)]

theorem isTime_digits : isTime ds = false := by
  unfold isTime
  rw [cutAt_digits hd (by decide)]

theorem moment?_digits : moment? ds = none := by
  have htake : isDate (ds.take 10) = false := isDate_digits fun c h => hd c (List.mem_of_mem_take h)
  simp [moment?, isDate_digits hd, isTime_digits hd, htake]

theorem splitSign_digits : splitSign ds = (none, ds) := by
  unfold splitSign
  split
  · exact absurd (List.mem_cons_self) (not_mem_of_digits hd (by decide))
  · exact absurd (List.mem_cons_self) (not_mem_of_digits hd (by decide))
  · rfl

theorem real?_digits : real? ds = none := by
  have hall : ∀ c ∈ ds, isMantissa c := fun c h => by simp [isMantissa, hd c h]
  have hdrop : ds.dropWhile isMantissa = [] := by
    have := dropWhile_run hall stops_nil
    rwa [List.append_nil] at this
  simp [real?, splitSign_digits hd, hdrop, exponent?]

theorem special?_digits : special? ds = none := by
  have hi : ds ≠ "inf".toList := fun h => not_mem_of_digits hd (c := 'i') rfl (by rw [h]; decide)
  have hn : ds ≠ "nan".toList := fun h => not_mem_of_digits hd (c := 'n') rfl (by rw [h]; decide)
  simp only [special?, splitSign_digits hd]
  exact if_neg (not_or.2 ⟨hi, hn⟩)

theorem ungroup_digits (hne : ds ≠ []) : ungroup Char.isDigit ds = some ds := by
  induction ds with
  | nil => exact absurd rfl hne
  | cons c ds ih =>
    have hc : c.isDigit := hd c List.mem_cons_self
    cases ds with
    | nil => simp [ungroup, hc]
    | cons d ds =>
      have hu : d ≠ '_' := fun h => not_mem_of_digits hd (c := '_') rfl (by simp [h])
      have ih := ih (fun e h => hd e (List.mem_cons_of_mem _ h)) nofun
      simp [ungroup, hc, hu, ih]

end Digits

theorem digitValue_of_isDigit {c : Char} (h : c.isDigit) :
    (digitValue c).getD 0 = c.toNat - '0'.toNat := by
  simp only [Char.isDigit, Bool.and_eq_true, decide_eq_true_eq] at h
  have hrange : '0' ≤ c ∧ c ≤ '9' := h
  rw [digitValue, if_pos hrange]
  rfl

theorem valueOf_decimal (n : Nat) : valueOf 10 (decimal n) = n :=
  foldl_decimal (fun _ => digitValue_of_isDigit) n

theorem whole?_decimal (n : Nat) : whole? (decimal n) = some (decimal n) := by
  have hd : ∀ c ∈ decimal n, c.isDigit := fun c h => isDigit_of_mem_decimal h
  have hzero : ¬ ((decimal n).head? = some '0' ∧ decimal n ≠ ['0']) := by
    rintro ⟨hhead, hne⟩
    rcases Nat.eq_zero_or_pos n with rfl | hn
    · exact hne rfl
    · exact head?_decimal hn hhead
  simp only [whole?, ungroup_digits hd (decimal_ne_nil n), bind, Option.bind_some]
  exact if_neg hzero

theorem integer?_decimal {n : Nat} (h : n < Nat.pow 2 63) : integer? (decimal n) = some n := by
  have hd : ∀ c ∈ decimal n, c.isDigit := fun c h => isDigit_of_mem_decimal h
  have hradix (c : Char) (hc : c.isDigit = false) (cs : List Char) : decimal n ≠ '0' :: c :: cs :=
    fun he => not_mem_of_digits hd hc (by simp [he])
  rw [integer?]
  · simp only [splitSign_digits hd, whole?_decimal, bind, Option.bind_some, valueOf_decimal]
    exact if_pos h
  · exact hradix 'x' rfl
  · exact hradix 'o' rfl
  · exact hradix 'b' rfl

/-- **A number is read back.** -/
theorem word?_decimal {n : Nat} (h : n < Nat.pow 2 63) : word? (decimal n) = some (.integer n) := by
  have hd : ∀ c ∈ decimal n, c.isDigit := fun c h => isDigit_of_mem_decimal h
  have ht : decimal n ≠ "true".toList := fun he =>
    not_mem_of_digits hd (c := 't') rfl (by rw [he]; decide)
  have hf : decimal n ≠ "false".toList := fun he =>
    not_mem_of_digits hd (c := 'f') rfl (by rw [he]; decide)
  rw [word?, if_neg ht, if_neg hf, moment?_digits hd, real?_digits hd, special?_digits hd,
    integer?_decimal h]
  rfl

/-! ### Names and values -/

/-- The name needs no quotes. -/
def IsBare (name : String) : Prop := name.toList ≠ [] ∧ name.toList.all isBare

instance (name : String) : Decidable (IsBare name) :=
  inferInstanceAs (Decidable (name.toList ≠ [] ∧ name.toList.all isBare))

/-- The value is a text, or a number that fits. -/
def Scalar.Fits : Scalar → Prop
  | text _ => True
  | number n => n < Nat.pow 2 63

section Keys

variable {name : String} {rest : List Char}

theorem IsBare.isBare (h : IsBare name) : ∀ c ∈ name.toList, Toml.isBare c :=
  List.all_eq_true.1 h.2

theorem IsBare.ne (h : IsBare name) {c d : Char} {cs : List Char} (hc : name.toList = c :: cs)
    (hd : Toml.isBare d = false) : c ≠ d := by
  rintro rfl
  rw [h.isBare c (hc ▸ List.mem_cons_self)] at hd
  cases hd

theorem skipSpaces_of_stops (h : Stops isSpace rest) : skipSpaces rest = rest := h.dropWhile

theorem IsBare.stops (h : IsBare name) (rest : List Char) :
    Stops isSpace (name.toList ++ rest) := by
  obtain ⟨c, cs, hc⟩ := List.exists_cons_of_ne_nil h.1
  rw [hc]
  refine stops_cons ?_
  simp [isSpace, h.ne hc (d := ' ') rfl, h.ne hc (d := '\t') rfl]

theorem readPart_bare (h : IsBare name) (hrest : Stops isBare rest) :
    readPart (name.toList ++ rest) = some (name.toList, rest) := by
  have htake := takeWhile_run h.isBare hrest
  have hdrop := dropWhile_run h.isBare hrest
  obtain ⟨c, cs, hc⟩ := List.exists_cons_of_ne_nil h.1
  rw [hc, List.cons_append] at htake hdrop ⊢
  unfold readPart
  split
  · next he => exact absurd (List.cons.inj he).1 (h.ne hc rfl)
  · next he => exact absurd (List.cons.inj he).1 (h.ne hc rfl)
  · rw [htake, hdrop]

theorem readPath_bare (h : IsBare name) (hrest : Stops isBare rest)
    (hdot : (skipSpaces rest).head? ≠ some '.') :
    readPath (name.toList ++ rest) = some (([], name), skipSpaces rest) := by
  have hkey : readKey keyLimit (name.toList ++ rest) = some ([name], skipSpaces rest) := by
    unfold keyLimit readKey
    rw [skipSpaces_of_stops (h.stops rest), readPart_bare h hrest]
    simp only [bind, Option.bind_some, String.ofList_toList]
    split
    · next hd => exact absurd (by rw [hd]; rfl) hdot
    · rfl
  simp [readPath, hkey]

end Keys

theorem exists_quoted (cs : List Char) :
    ∃ c ds, quoted cs = c :: ds ∧ (c = '"' ∨ c = '\'') := by
  unfold quoted
  cases formOf cs with
  | basic => exact ⟨_, _, rfl, .inl rfl⟩
  | literal => exact ⟨_, _, rfl, .inr rfl⟩
  | long => exact ⟨_, _, rfl, .inl rfl⟩
  | longLiteral => exact ⟨_, _, rfl, .inr rfl⟩

theorem exists_writeScalar (value : Scalar) :
    ∃ c cs, value.write = c :: cs ∧ ∀ b, b ≠ '"' → b ≠ '\'' → b.isDigit = false → c ≠ b := by
  cases value with
  | text s =>
    obtain ⟨c, cs, h, hc⟩ := exists_quoted s.toList
    refine ⟨c, cs, h, ?_⟩
    rintro b hd hs - rfl
    exact hc.elim hd hs
  | number n =>
    obtain ⟨c, cs, h, hc⟩ := exists_decimal n
    exact ⟨c, cs, h, fun b _ _ hb => ne_of_isDigit hc hb⟩

theorem takeWord_decimal (n : Nat) (rest : List Char) :
    takeWord (decimal n ++ '\n' :: rest) = (decimal n, '\n' :: rest) := by
  have hall : ∀ c ∈ decimal n, isWordChar c := fun c hc => by
    simp [isWordChar, Char.isAlphanum, isDigit_of_mem_decimal hc]
  have hstops : Stops isWordChar ('\n' :: rest) := stops_cons rfl
  simp [takeWord, takeWhile_run hall hstops, dropWhile_run hall hstops]

theorem readSimple_write {value : Scalar} (h : value.Fits) (rest : List Char) :
    readSimple (value.write ++ '\n' :: rest) = some (value.data, '\n' :: rest) := by
  cases value with
  | text s =>
    have hquote : NoQuote ('\n' :: rest) := ⟨nofun, nofun⟩
    have hread := readQuoted_quoted s.toList hquote
    obtain ⟨c, cs, hq, hc⟩ := exists_quoted s.toList
    show readSimple (quoted s.toList ++ '\n' :: rest) = _
    rw [hq, List.cons_append] at hread ⊢
    rcases hc with rfl | rfl <;> simp [readSimple, hread, Scalar.data]
  | number n =>
    have htake := takeWord_decimal n rest
    have hword := word?_decimal h
    obtain ⟨c, cs, hc, hd⟩ := exists_decimal n
    show readSimple (decimal n ++ '\n' :: rest) = _
    rw [hc] at hword
    rw [hc, List.cons_append] at htake ⊢
    unfold readSimple
    split
    · next he => exact absurd (List.cons.inj he).1 (ne_of_isDigit hd rfl)
    · next he => exact absurd (List.cons.inj he).1 (ne_of_isDigit hd rfl)
    · rw [htake]
      simp [hword, Scalar.data]

theorem readValue_writeScalar {value : Scalar} (h : value.Fits) (depth fuel : Nat)
    (rest : List Char) :
    readValue (depth + 1) (fuel + 1) (value.write ++ '\n' :: rest) =
      some (value.data, '\n' :: rest) := by
  have hread := readSimple_write h rest
  obtain ⟨c, cs, hw, hne⟩ := exists_writeScalar value
  rw [hw, List.cons_append] at hread ⊢
  unfold readValue
  split
  · next hdepth _ => exact absurd hdepth (Nat.succ_ne_zero _)
  · next hdepth _ => exact absurd hdepth (Nat.succ_ne_zero _)
  · next he => exact absurd (List.cons.inj he).1 (hne _ (by decide) (by decide) rfl)
  · next he => exact absurd (List.cons.inj he).1 (hne _ (by decide) (by decide) rfl)
  · exact hread

/-! ### Lines -/

section Lines

variable {name : String} {rest : List Char}

theorem readHeader_bare (h : IsBare name) (rest : List Char) :
    readHeader false [']'] (name.toList ++ ']' :: '\n' :: rest) =
      some (.header ⟨[], name, false⟩, rest) := by
  have hspace : skipSpaces (']' :: '\n' :: rest) = ']' :: '\n' :: rest := rfl
  have hstops : Stops isBare (']' :: '\n' :: rest) := stops_cons rfl
  have hdot : (skipSpaces (']' :: '\n' :: rest)).head? ≠ some '.' := by rw [hspace]; simp
  have hend : takeRest ('\n' :: rest) = some rest := rfl
  simp [readHeader, readPath_bare h hstops hdot, hspace, afterStart?, hend]

/-- **A header is read back.** -/
theorem readLine_header (h : IsBare name) (rest : List Char) :
    readLine (writeHeader name ++ rest) = some (.header ⟨[], name, false⟩, rest) := by
  have hread := readHeader_bare h rest
  obtain ⟨c, cs, hc⟩ := List.exists_cons_of_ne_nil h.1
  have hspace (more : List Char) : skipSpaces ('[' :: more) = '[' :: more := rfl
  have hbracket : c ≠ '[' := h.ne hc rfl
  rw [hc, List.cons_append] at hread
  simp [readLine, writeHeader, hc, hspace, hbracket, hread]

theorem readPair_row (h : IsBare name) {value : Scalar} (hv : value.Fits) (rest : List Char) :
    readPair (name.toList ++ ' ' :: '=' :: ' ' :: (value.write ++ '\n' :: rest)) =
      some (.pair ⟨[], name, value.data⟩, rest) := by
  have hspace (more : List Char) : skipSpaces (' ' :: '=' :: more) = '=' :: more := rfl
  have hvalue :
      skipSpaces (' ' :: (value.write ++ '\n' :: rest)) = value.write ++ '\n' :: rest := by
    obtain ⟨c, cs, hw, hne⟩ := exists_writeScalar value
    have hblank : isSpace c = false := by
      simp [isSpace, hne ' ' (by decide) (by decide) rfl, hne '\t' (by decide) (by decide) rfl]
    rw [hw]
    exact skipSpaces_of_stops (stops_cons hblank)
  have hstops (more : List Char) : Stops isBare (' ' :: more) := stops_cons rfl
  have hdot (more : List Char) : (skipSpaces (' ' :: '=' :: more)).head? ≠ some '.' := by
    rw [hspace]; simp
  have hend : takeRest ('\n' :: rest) = some rest := rfl
  simp [readPair, readPath_bare h (hstops _) (hdot _), hspace, hvalue, nestingLimit,
    readValue_writeScalar hv, hend]

/-- **A row is read back.** -/
theorem readLine_row (h : IsBare name) {value : Scalar} (hv : value.Fits) (rest : List Char) :
    readLine (writeRow name value ++ rest) = some (.pair ⟨[], name, value.data⟩, rest) := by
  have hread := readPair_row h hv rest
  have hspace := skipSpaces_of_stops
    (h.stops (' ' :: '=' :: ' ' :: (value.write ++ '\n' :: rest)))
  obtain ⟨c, cs, hc⟩ := List.exists_cons_of_ne_nil h.1
  rw [hc, List.cons_append] at hread hspace
  simp [readLine, writeRow, hc, hspace, h.ne hc (d := '[') rfl, h.ne hc (d := '#') rfl,
    h.ne hc (d := '\n') rfl, h.ne hc (d := '\r') rfl, hread]

end Lines

/-! ### The section -/

theorem readLines_cons {fuel : Nat} {cs rest : List Char} {line : Line} {lines : List Line}
    (hne : cs ≠ []) (h : readLine cs = some (line, rest))
    (hmore : readLines fuel rest = some lines) :
    readLines (fuel + 1) cs = some (line :: lines) := by
  cases cs with
  | nil => exact absurd rfl hne
  | cons c cs => simp [readLines, h, hmore]

/-- The rows can be read back one by one: their names need no quotes, and their values fit. -/
def FitRows (rows : List (String × Scalar)) : Prop := ∀ row ∈ rows, IsBare row.1 ∧ row.2.Fits

/-- A row as a pair of a document. -/
def pairOf (row : String × Scalar) : Pair := ⟨[], row.1, row.2.data⟩

theorem readLines_rows {rows : List (String × Scalar)} (h : FitRows rows) {fuel : Nat}
    (hf : (rows.flatMap fun row => writeRow row.1 row.2).length ≤ fuel) :
    readLines fuel (rows.flatMap fun row => writeRow row.1 row.2) =
      some (rows.map fun row => .pair (pairOf row)) := by
  induction rows generalizing fuel with
  | nil => cases fuel <;> rfl
  | cons row rows ih =>
    obtain ⟨hname, hvalue⟩ := h row List.mem_cons_self
    rw [List.flatMap_cons] at hf ⊢
    have hrow : 0 < (writeRow row.1 row.2).length := by
      simp only [writeRow, List.length_append, List.length_cons]
      omega
    rw [List.length_append] at hf
    obtain ⟨fuel, rfl⟩ : ∃ n, fuel = n + 1 := ⟨fuel - 1, by omega⟩
    have hne : writeRow row.1 row.2 ++ rows.flatMap (fun row => writeRow row.1 row.2) ≠ [] := by
      simp [writeRow]
    exact readLines_cons hne (readLine_row hname hvalue _)
      (ih (fun r hr => h r (List.mem_cons_of_mem _ hr)) (by omega))

theorem sections_pairs (pairs : List Pair) : sections (pairs.map .pair) = (pairs, []) := by
  induction pairs with
  | nil => rfl
  | cons p pairs ih => simp [sections, ih]

theorem insertAll_pairs {rows : List (String × Scalar)} {table : Rows}
    (hnew : ∀ row ∈ rows, table.lookup row.1 = none) (hnodup : (rows.map Prod.fst).Nodup) :
    Rows.insertAll table (rows.map pairOf) =
      some (table ++ rows.map fun row => (row.1, .leaf row.2.data)) := by
  induction rows generalizing table with
  | nil => simp [Rows.insertAll]
  | cons row rows ih =>
    obtain ⟨hfresh, hnodup⟩ := List.nodup_cons.1 hnodup
    have hinsert :
        Rows.insert table (pairOf row) = some (table ++ [(row.1, .leaf row.2.data)]) := by
      simp [Rows.insert, pairOf, Rows.descend, Rows.insertHere, hnew row List.mem_cons_self]
    have hrest : ∀ r ∈ rows, (table ++ [(row.1, Node.leaf row.2.data)]).lookup r.1 = none := by
      intro r hr
      have hname : (r.1 == row.1) = false :=
        beq_false_of_ne fun he => hfresh (he ▸ List.mem_map_of_mem hr)
      simp [List.lookup_append, hnew r (List.mem_cons_of_mem _ hr), List.lookup_cons, hname]
    have hmore := ih hrest hnodup
    unfold Rows.insertAll at hmore ⊢
    rw [List.map_cons, List.foldlM_cons, hinsert]
    simpa using hmore

theorem rowsData_leaf (rows : List (String × Scalar)) :
    rowsData (rows.map fun row => (row.1, .leaf row.2.data)) =
      rows.map fun row => (row.1, row.2.data) := by
  induction rows with
  | nil => rfl
  | cons row rows ih => simp [rowsData, Node.data, ih]

theorem documentTable_section {name : String} {rows : List (String × Scalar)}
    (hnodup : (rows.map Prod.fst).Nodup) :
    documentTable [] [⟨⟨[], name, false⟩, rows.map pairOf⟩] =
      some (.table [(name, .table (rows.map fun row => (row.1, row.2.data)))]) := by
  have htable : Rows.insertAll [] (rows.map pairOf) =
      some (rows.map fun row => (row.1, .leaf row.2.data)) :=
    insertAll_pairs (fun _ _ => rfl) hnodup
  have hfirst : Rows.insertAll [] [] = some [] := rfl
  have hsection : Rows.addSection [] ⟨⟨[], name, false⟩, rows.map pairOf⟩ =
      some [(name, .table .header (rows.map fun row => (row.1, .leaf row.2.data)))] := by
    simp [Rows.addSection, Rows.descend, Rows.openHere, htable]
  simp [documentTable, hfirst, hsection, rowsData, Node.data, rowsData_leaf]

/-- **A section is read back**, as a document with one table. -/
theorem read_writeSection {name : String} {rows : List (String × Scalar)} (hname : IsBare name)
    (hrows : FitRows rows) (hnodup : (rows.map Prod.fst).Nodup) :
    read (String.ofList (writeSection name rows)) =
      some (.table [(name, .table (rows.map fun row => (row.1, row.2.data)))]) := by
  have hmark : skipMark (writeSection name rows) = writeSection name rows := rfl
  have hlines : readLines (writeSection name rows).length (writeSection name rows) =
      some (.header ⟨[], name, false⟩ :: rows.map fun row => .pair (pairOf row)) := by
    have hlength : (writeSection name rows).length = (writeHeader name).length +
        (rows.flatMap fun row => writeRow row.1 row.2).length := List.length_append
    have hheader : 0 < (writeHeader name).length := Nat.succ_pos _
    obtain ⟨fuel, hfuel⟩ : ∃ n, (writeSection name rows).length = n + 1 :=
      ⟨(writeSection name rows).length - 1, by omega⟩
    rw [hfuel]
    exact readLines_cons nofun (readLine_header hname _) (readLines_rows hrows (by omega))
  have hsections : sections (.header ⟨[], name, false⟩ :: rows.map fun row => .pair (pairOf row)) =
      ([], [⟨⟨[], name, false⟩, rows.map pairOf⟩]) := by
    have hpairs := sections_pairs (rows.map pairOf)
    rw [List.map_map] at hpairs
    show ([], ⟨⟨[], name, false⟩, (sections (rows.map (Line.pair ∘ pairOf))).1⟩ ::
      (sections (rows.map (Line.pair ∘ pairOf))).2) = _
    rw [hpairs]
  simp only [read, String.toList_ofList, hmark, hlines, hsections, bind, Option.bind_some]
  exact documentTable_section hnodup

end PortRoster.Toml
