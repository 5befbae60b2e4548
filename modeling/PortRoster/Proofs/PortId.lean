import Mathlib.Data.List.TakeWhile
import PortRoster.PortId
import PortRoster.Proofs.Text.NaturalOrder
import PortRoster.Proofs.Text.Numeral
import PortRoster.Proofs.Text.Run

/-! # Identifiers as texts

An identifier is written in hexadecimal of fixed width, and read in hexadecimal or in decimal, with
blanks around it and underscores anywhere in it. Blanks are taken away once, before the underscores:
what stands behind an underscore is not trimmed again.

* `trims_iff`: the text without the blanks around it.
* `parseRaw_eq_ok_iff_spells`: the texts that are read as a word, and the words.
* `parseRaw_of_filter_eq`: a text with underscores is read as the text without them.
* `parseRaw_spelled`: all of it for the two ways in which an identifier is written. -/

namespace PortRoster

namespace Text

/-- The second text is what is left of the first one without the blanks around it. -/
def Trims (cs mid : List Char) : Prop :=
  ∃ front back, cs = front ++ mid ++ back ∧ (∀ c ∈ front, isBlank c) ∧ (∀ c ∈ back, isBlank c) ∧
    Stops isBlank mid ∧ Stops isBlank mid.reverse

theorem stops_dropWhile (p : Char → Bool) (cs : List Char) : Stops p (cs.dropWhile p) :=
  fun c hc => Bool.eq_false_iff.2 (not_head_dropWhile cs c hc)

theorem trimEnd_append {mid back : List Char} (hback : ∀ c ∈ back, isBlank c)
    (hmid : Stops isBlank mid.reverse) : trimEnd (mid ++ back) = mid := by
  rw [trimEnd, List.reverse_append,
    dropWhile_run (fun c hc => hback c (List.mem_reverse.1 hc)) hmid, List.reverse_reverse]

/-- **The text without the blanks around it** is the one part between blanks alone that begins and
ends with no blank. -/
theorem trims_iff {cs mid : List Char} : Trims cs mid ↔ trim cs = mid := by
  constructor
  · rintro ⟨front, back, rfl, hfront, hback, hhead, hlast⟩
    cases mid with
    | nil =>
      have hall : ∀ c ∈ front ++ [] ++ back, isBlank c := by
        simpa using fun c hc => hc.elim (hfront c) (hback c)
      rw [trim, List.dropWhile_eq_nil_iff.2 hall]
      rfl
    | cons c mid =>
      have hstops : Stops isBlank (c :: mid ++ back) := stops_cons (hhead c rfl)
      rw [trim, List.append_assoc, dropWhile_run hfront hstops, trimEnd_append hback hlast]
  · rintro rfl
    obtain ⟨back, hback⟩ := exists_trimEnd_append (cs.dropWhile isBlank)
    refine ⟨cs.takeWhile isBlank, ((cs.dropWhile isBlank).reverse.takeWhile isBlank).reverse, ?_,
      fun c hc => List.mem_takeWhile_imp hc,
      fun c hc => List.mem_takeWhile_imp (List.mem_reverse.1 hc), ?_, ?_⟩
    · rw [trim, trimEnd, List.append_assoc, ← List.reverse_append, List.takeWhile_append_dropWhile,
        List.reverse_reverse, List.takeWhile_append_dropWhile]
    · exact fun c hc => stops_dropWhile isBlank cs c (head?_trimEnd hc)
    · rw [trim, trimEnd, List.reverse_reverse]
      exact stops_dropWhile isBlank _

theorem trim_eq_self {cs : List Char} (h : ∀ c ∈ cs, isBlank c = false) : trim cs = cs :=
  trims_iff.1 ⟨[], [], by simp, by simp, by simp, fun c hc => h c (List.mem_of_mem_head? hc),
    fun c hc => h c (List.mem_reverse.1 (List.mem_of_mem_head? hc))⟩

theorem exists_trim_cons {c : Char} (h : isBlank c = false) (cs : List Char) :
    ∃ rest, trim (c :: cs) = c :: rest := by
  obtain ⟨front, back, hcs, hfront, hback, -⟩ := trims_iff.2 (rfl : trim (c :: cs) = trim (c :: cs))
  cases front with
  | cons d front =>
    rw [List.cons_append, List.cons_append] at hcs
    have hd := hfront d List.mem_cons_self
    rw [← (List.cons.inj hcs).1, h] at hd
    cases hd
  | nil =>
    rw [List.nil_append] at hcs
    cases hmid : trim (c :: cs) with
    | nil =>
      rw [hmid, List.nil_append] at hcs
      have hc := hback c (hcs ▸ List.mem_cons_self)
      rw [h] at hc
      cases hc
    | cons d rest =>
      rw [hmid, List.cons_append] at hcs
      exact ⟨rest, by rw [(List.cons.inj hcs).1]⟩

end Text

namespace PortId

/-- The text spells a number: without the blanks around it and the underscores in it, it is a
numeral, in hexadecimal after `0x` or `0X`, else in decimal. -/
def Spells (s : String) (n : Nat) : Prop :=
  ∃ mid, Text.Trims s.toList mid ∧
    ((∃ x run, (x = 'x' ∨ x = 'X') ∧ mid.filter (· != '_') = '0' :: x :: run ∧
        Text.IsUnsigned 16 run n) ∨
      Text.IsUnsigned 10 (mid.filter (· != '_')) n)

theorem not_isUnsigned_prefixed {x : Char} (hx : x = 'x' ∨ x = 'X') (run : List Char) (n : Nat) :
    ¬ Text.IsUnsigned 10 ('0' :: x :: run) n := by
  rintro ⟨digits, rfl | hplus, -, ds, hds, -⟩
  · obtain ⟨_, _, -, hds, -⟩ := List.forall₂_cons_left_iff.1 hds
    obtain ⟨d, _, hd, -, -⟩ := List.forall₂_cons_left_iff.1 hds
    rw [← Text.digitOf_eq_some_iff (by decide)] at hd
    rcases hx with rfl | rfl <;> cases hd
  · cases hplus

theorem readRaw_eq_ok_iff {cs : List Char} {w : UInt32} :
    readRaw cs = .ok w ↔
      (∃ x run, (x = 'x' ∨ x = 'X') ∧ cs = '0' :: x :: run ∧ Text.IsUnsigned 16 run w.toNat) ∨
        Text.IsUnsigned 10 cs w.toNat := by
  have hprefixed {x : Char} (hx : x = 'x' ∨ x = 'X') (run : List Char) :
      Text.readWord 16 run = .ok w ↔ (∃ y rest, (y = 'x' ∨ y = 'X') ∧
        '0' :: x :: run = '0' :: y :: rest ∧ Text.IsUnsigned 16 rest w.toNat) ∨
        Text.IsUnsigned 10 ('0' :: x :: run) w.toNat := by
    rw [Text.readWord_eq_ok_iff (by decide)]
    constructor
    · exact fun h => .inl ⟨x, run, hx, rfl, h⟩
    · rintro (⟨y, rest, -, hsame, h⟩ | h)
      · rwa [(List.cons.inj (List.cons.inj hsame).2).2]
      · exact absurd h (not_isUnsigned_prefixed hx run _)
  unfold readRaw
  split
  · exact hprefixed (.inl rfl) _
  · exact hprefixed (.inr rfl) _
  · next hx hX =>
    rw [Text.readWord_eq_ok_iff (by decide)]
    constructor
    · exact .inr
    · rintro (⟨x, run, rfl | rfl, hcs, -⟩ | h)
      · exact absurd hcs (hx run)
      · exact absurd hcs (hX run)
      · exact h

theorem parseRaw_eq_ok_iff {s : String} {w : UInt32} :
    parseRaw s = .ok w ↔ readRaw (bare s.toList) = .ok w := by
  simp only [parseRaw]
  cases hread : readRaw (bare s.toList) <;> simp [Except.mapError]

/-- **The texts that are read as a word, and the words.** -/
theorem parseRaw_eq_ok_iff_spells {s : String} {w : UInt32} :
    parseRaw s = .ok w ↔ Spells s w.toNat := by
  rw [parseRaw_eq_ok_iff, readRaw_eq_ok_iff, Spells, bare]
  constructor
  · exact fun h => ⟨_, Text.trims_iff.2 rfl, h⟩
  · rintro ⟨mid, hmid, h⟩
    rwa [Text.trims_iff.1 hmid]

theorem parseRaw_dash {s : String} {cs : List Char} (h : s.toList = '-' :: cs) (w : UInt32) :
    parseRaw s ≠ .ok w := by
  obtain ⟨rest, hrest⟩ := Text.exists_trim_cons (c := '-') (by decide) cs
  rw [Ne, parseRaw_eq_ok_iff, readRaw_eq_ok_iff, bare, h, hrest, List.filter_cons_of_pos (by decide)]
  rintro (⟨x, run, -, hcs, -⟩ | ⟨run, rfl | hplus, -, ds, hds, -⟩)
  · cases hcs
  · obtain ⟨d, _, hd, -, -⟩ := List.forall₂_cons_left_iff.1 hds
    rw [← Text.digitOf_eq_some_iff (by decide)] at hd
    cases hd
  · cases hplus

/-! ### Reading back -/

/-- **A text with underscores is read as the text without them**, where it has no blanks. -/
theorem parseRaw_of_filter_eq {t : String} {cs : List Char} {w : UInt32}
    (h : t.toList.filter (· != '_') = cs) (hblank : ∀ c ∈ cs, Text.isBlank c = false)
    (hread : readRaw cs = .ok w) : parseRaw t = .ok w := by
  have ht : ∀ c ∈ t.toList, Text.isBlank c = false := fun c hc => by
    by_cases hu : c = '_'
    · rw [hu]
      decide
    · exact hblank c (h ▸ List.mem_filter.2 ⟨hc, by simpa using hu⟩)
  have hbare : bare t.toList = cs := by rw [bare, Text.trim_eq_self ht, h]
  rw [parseRaw_eq_ok_iff, hbare, hread]

theorem plain_of_isDigit {c : Char} (h : c.isDigit) : Text.isBlank c = false ∧ c ≠ '_' := by
  refine ⟨?_, Text.ne_of_isDigit h rfl⟩
  have hc : 48 ≤ c.toNat ∧ c.toNat ≤ 57 := (Text.isDigit_iff c).1 h
  simp [Text.isBlank, Text.blankRuns]
  omega

theorem exists_hexDigit {c : Char} : ∀ {width n : Nat}, c ∈ Text.hexadecimal width n →
    ∃ d < 16, c = Text.hexDigit d
  | width + 1, n, h => by
    rcases List.mem_append.1 h with h | h
    · exact exists_hexDigit h
    · exact ⟨n % 16, Nat.mod_lt n (by decide), List.mem_singleton.1 h⟩

theorem plain_text (raw : UInt32) {c : Char} (h : c ∈ (textOf raw).toList) :
    Text.isBlank c = false ∧ c ≠ '_' := by
  have hdigit : ∀ d < 16, Text.isBlank (Text.hexDigit d) = false ∧ Text.hexDigit d ≠ '_' := by
    decide
  rw [textOf, String.toList_ofList, List.mem_cons, List.mem_cons] at h
  rcases h with rfl | rfl | h
  · decide
  · decide
  · obtain ⟨d, hd, rfl⟩ := exists_hexDigit h
    exact hdigit d hd

theorem plain_decimalText (n : Nat) {c : Char} (h : c ∈ (Text.decimalText n).toList) :
    Text.isBlank c = false ∧ c ≠ '_' := by
  rw [Text.decimalText, String.toList_ofList] at h
  exact plain_of_isDigit (Text.isDigit_of_mem_decimal h)

theorem readRaw_text (raw : UInt32) : readRaw (textOf raw).toList = .ok raw := by
  rw [textOf, String.toList_ofList]
  exact Text.readWord_hexadecimal raw

theorem readRaw_decimalText (raw : UInt32) :
    readRaw (Text.decimalText raw.toNat).toList = .ok raw := by
  have hletter {x : Char} (hx : x.isDigit = false) (cs : List Char) :
      Text.decimal raw.toNat ≠ '0' :: x :: cs := fun h => by
    have hmem : x ∈ Text.decimal raw.toNat := by simp [h]
    exact Text.ne_of_isDigit (Text.isDigit_of_mem_decimal hmem) hx rfl
  rw [Text.decimalText, String.toList_ofList]
  unfold readRaw
  split
  · next h => exact absurd h (hletter rfl _)
  · next h => exact absurd h (hletter rfl _)
  · exact Text.readWord_decimal raw

/-- **Words are read exactly as they are spelled, and identifiers are read back.** A text is read as
a word if it spells the number of the word, and is refused if it spells no number or one that fits
in no word. So the text of an identifier and the decimal text of its word are read as the word, with
underscores at any places. -/
theorem parseRaw_spelled :
    (∀ (s : String) (w : UInt32), parseRaw s = .ok w ↔ Spells s w.toNat) ∧
    (∀ s : String, (∃ e, parseRaw s = .error e) ↔ ∀ n, Spells s n → Text.wordBound ≤ n) ∧
    ∀ id : PortId, parseRaw id.text = .ok id.raw ∧
      parseRaw (Text.decimalText id.raw.toNat) = .ok id.raw ∧
      ∀ t : String, t.toList.filter (· != '_') = id.text.toList ∨
          t.toList.filter (· != '_') = (Text.decimalText id.raw.toNat).toList →
        parseRaw t = .ok id.raw := by
  have hkeep {s : String} (h : ∀ c ∈ s.toList, Text.isBlank c = false ∧ c ≠ '_') :
      s.toList.filter (· != '_') = s.toList :=
    List.filter_eq_self.2 fun c hc => by simpa using (h c hc).2
  refine ⟨fun _ _ => parseRaw_eq_ok_iff_spells, fun s => ?_, fun id => ?_⟩
  · cases hread : parseRaw s with
    | ok w =>
      have hw := parseRaw_eq_ok_iff_spells.1 hread
      refine ⟨?_, fun h => absurd (h _ hw) (Nat.not_le_of_lt w.toNat_lt)⟩
      rintro ⟨e, he⟩
      cases he
    | error e =>
      refine ⟨fun _ n hn => Nat.le_of_not_lt fun hlt => ?_, fun _ => ⟨e, rfl⟩⟩
      rw [← UInt32.toNat_ofNat_of_lt' hlt, ← parseRaw_eq_ok_iff_spells, hread] at hn
      cases hn
  · have htext {t : String} (h : t.toList.filter (· != '_') = id.text.toList) :
        parseRaw t = .ok id.raw :=
      parseRaw_of_filter_eq h (fun c hc => (plain_text id.raw hc).1) (readRaw_text id.raw)
    have hdecimal {t : String}
        (h : t.toList.filter (· != '_') = (Text.decimalText id.raw.toNat).toList) :
        parseRaw t = .ok id.raw :=
      parseRaw_of_filter_eq h (fun c hc => (plain_decimalText _ hc).1) (readRaw_decimalText id.raw)
    refine ⟨htext (hkeep fun c => plain_text id.raw), hdecimal (hkeep fun c => plain_decimalText _),
      ?_⟩
    rintro t (h | h)
    · exact htext h
    · exact hdecimal h

/-- Underscores may stand in front of the text, inside `0x` and behind the digits. -/
theorem parseRaw_spelled_underscores :
    "_0_x0001__0004_".toList.filter (· != '_') = (encode .serial 4).text.toList ∧
      parseRaw "_0_x0001__0004_" = .ok (encode .serial 4).raw ∧
      parseRaw "6_5_540" = .ok (encode .serial 4).raw := by
  obtain ⟨-, -, hread⟩ := parseRaw_spelled
  have htext : "_0_x0001__0004_".toList.filter (· != '_') = (encode .serial 4).text.toList := by
    decide
  obtain ⟨-, -, hunderscored⟩ := hread (encode .serial 4)
  exact ⟨htext, hunderscored _ (.inl htext), hunderscored _ (.inr (by decide))⟩

end PortId

end PortRoster
