import Mathlib.Tactic.SplitIfs
import PortRoster.Document.Toml.Reader

/-! # No value of a document is missing

TOML has no word for a missing value, so what is read of a document is a table, and no row of it is
null. A value is never read as null (`readValue_ne_null`), so it does not come to a table by a pair;
and what a header or a dotted key adds is a table or a list of tables. The invariant of a table that
grows is that all its rows are there (`Rows.Present`).

* `Rows.Present.descend`: one change of a table keeps its rows there.
* `exists_rows_of_read`: a document is a table, and no row of it is null. -/

namespace PortRoster.Toml

/-! ### Values -/

theorem real?_ne_null (word : List Char) : real? word ≠ some .null := by
  have hend (p : Prop) [Decidable p] :
      (if p then none else some (Data.real (String.ofList word))) ≠ some .null := by
    split_ifs <;> simp
  intro h
  simp only [real?, bind, Option.bind_eq_some_iff, Option.bind_some] at h
  obtain ⟨ds, -, h⟩ := h
  split at h
  · obtain ⟨fraction, -, h⟩ := Option.bind_eq_some_iff.1 h
    split at h
    · exact hend _ h
    · obtain ⟨scale, -, h⟩ := Option.bind_eq_some_iff.1 h
      exact hend _ h
  · obtain ⟨scale, -, h⟩ := Option.bind_eq_some_iff.1 h
    exact hend _ h

theorem word?_ne_null {word : List Char} {d : Data} (h : word? word = some d) : d ≠ .null := by
  rintro rfl
  have hmoment : moment? word ≠ some .null := by simp [moment?]
  have hspecial : special? word ≠ some .null := by simp [special?]
  unfold word? at h
  split_ifs at h with htrue hfalse
  · cases h
  · cases h
  · simp [Option.or_eq_some_iff, hmoment, real?_ne_null, hspecial] at h

theorem readSimple_ne_null {cs rest : List Char} {d : Data} (h : readSimple cs = some (d, rest)) :
    d ≠ .null := by
  unfold readSimple at h
  split at h
  · obtain ⟨p, -, hp⟩ := Option.map_eq_some_iff.1 h
    cases hp
    nofun
  · obtain ⟨p, -, hp⟩ := Option.map_eq_some_iff.1 h
    cases hp
    nofun
  · obtain ⟨e, he, hp⟩ := Option.map_eq_some_iff.1 h
    cases hp
    exact word?_ne_null he

/-- **A value is never read as null.** -/
theorem readValue_ne_null {depth fuel : Nat} {cs rest : List Char} {d : Data}
    (h : readValue depth fuel cs = some (d, rest)) : d ≠ .null := by
  cases fuel with
  | zero => simp [readValue] at h
  | succ fuel =>
    unfold readValue at h
    split at h
    · cases h
    · cases h
    · obtain ⟨p, -, hp⟩ := Option.map_eq_some_iff.1 h
      cases hp
      nofun
    · split at h
      · cases h
        nofun
      · simp only [bind, Option.bind_eq_some_iff] at h
        obtain ⟨p, -, table, htable, hp⟩ := h
        cases hp
        obtain ⟨rows, -, rfl⟩ := Option.map_eq_some_iff.1 htable
        nofun
    · exact readSimple_ne_null h

/-! ### Lines -/

theorem readPair_ne_null {cs rest : List Char} {p : Pair} (h : readPair cs = some (.pair p, rest)) :
    p.value ≠ .null := by
  unfold readPair at h
  simp only [bind, Option.bind_eq_some_iff] at h
  obtain ⟨key, -, h⟩ := h
  split at h
  · simp only [Option.bind_eq_some_iff] at h
    obtain ⟨⟨value, more⟩, hvalue, _, -, hp⟩ := h
    cases hp
    exact readValue_ne_null hvalue
  · cases h

theorem readHeader_ne_pair {isRepeated : Bool} {closing cs rest : List Char} {p : Pair} :
    readHeader isRepeated closing cs ≠ some (.pair p, rest) := by
  simp [readHeader, Option.bind_eq_some_iff]

theorem readLine_ne_null {cs rest : List Char} {p : Pair} (h : readLine cs = some (.pair p, rest)) :
    p.value ≠ .null := by
  unfold readLine at h
  split at h
  · cases h
  · exact absurd h readHeader_ne_pair
  · exact absurd h readHeader_ne_pair
  · split_ifs at h
    · obtain ⟨_, -, hp⟩ := Option.map_eq_some_iff.1 h
      cases hp
    · exact readPair_ne_null h

theorem readLines_ne_null {fuel : Nat} {cs : List Char} {lines : List Line}
    (h : readLines fuel cs = some lines) : ∀ p, .pair p ∈ lines → p.value ≠ .null := by
  induction fuel generalizing cs lines with
  | zero =>
    cases cs with
    | nil => cases h; exact fun p hp => absurd hp List.not_mem_nil
    | cons c cs => simp [readLines] at h
  | succ fuel ih =>
    cases cs with
    | nil => cases h; exact fun p hp => absurd hp List.not_mem_nil
    | cons c cs =>
      simp only [readLines, bind, Option.bind_eq_some_iff] at h
      obtain ⟨⟨line, rest⟩, hline, more, hmore, hp⟩ := h
      cases hp
      intro p hp
      rcases List.mem_cons.1 hp with rfl | hp
      · exact readLine_ne_null hline
      · exact ih hmore p hp

theorem pair_mem_of_mem_sections {lines : List Line} {p : Pair} (h : p ∈ (sections lines).1) :
    .pair p ∈ lines := by
  induction lines with
  | nil => exact absurd h List.not_mem_nil
  | cons line lines ih =>
    cases line with
    | nothing => exact List.mem_cons_of_mem _ (ih h)
    | header header => exact absurd h List.not_mem_nil
    | pair q =>
      rcases List.mem_cons.1 h with rfl | h
      · exact List.mem_cons_self
      · exact List.mem_cons_of_mem _ (ih h)

/-! ### Tables -/

namespace Rows

/-- No row is null. -/
def Present (rows : Rows) : Prop := ∀ r ∈ rows, r.2.data ≠ .null

variable {rows rows' : Rows} {name : String} {node : Node}

theorem present_nil : Present [] := fun _ h => absurd h List.not_mem_nil

theorem Present.append (h : rows.Present) (hn : node.data ≠ .null) :
    Present (rows ++ [(name, node)]) := by
  intro r hr
  rcases List.mem_append.1 hr with hr | hr
  · exact h r hr
  · rw [List.mem_singleton.1 hr]
    exact hn

theorem Present.put (h : rows.Present) (hn : node.data ≠ .null) : (rows.put name node).Present := by
  induction rows with
  | nil => exact present_nil.append hn
  | cons row rows ih =>
    have hrows : Present rows := fun r hr => h r (List.mem_cons_of_mem _ hr)
    unfold Rows.put
    split_ifs
    · exact List.forall_mem_cons.2 ⟨hn, hrows⟩
    · exact List.forall_mem_cons.2 ⟨h _ List.mem_cons_self, ih hrows⟩

/-- **One change of a table keeps its rows there**, if the change itself does. On the way to another
table only tables are added. -/
theorem Present.descend {dotted : Bool} {change : Origin → Rows → Option Rows}
    {path : List String} {origin : Origin} (h : rows.Present)
    (hchange : ∀ origin rows rows', Present rows → change origin rows = some rows' → Present rows')
    (hd : rows.descend dotted change path origin = some rows') : rows'.Present := by
  cases path with
  | nil => exact hchange origin rows rows' h hd
  | cons name path =>
    unfold Rows.descend at hd
    split at hd
    · obtain ⟨sub, -, rfl⟩ := Option.map_eq_some_iff.1 hd
      exact h.append nofun
    · split_ifs at hd
      obtain ⟨sub, -, rfl⟩ := Option.map_eq_some_iff.1 hd
      exact h.put nofun
    · simp only [Option.bind_eq_some_iff] at hd
      obtain ⟨old, -, hd⟩ := hd
      obtain ⟨sub, -, rfl⟩ := Option.map_eq_some_iff.1 hd
      exact h.put nofun
    · cases hd

theorem Present.insert {p : Pair} (hp : p.value ≠ .null) (h : rows.Present)
    (hi : rows.insert p = some rows') : rows'.Present := by
  refine h.descend (fun origin rows rows' h hi => ?_) hi
  unfold insertHere at hi
  split_ifs at hi
  cases hi
  exact h.append hp

theorem Present.addSection {s : Section} (h : rows.Present)
    (ha : rows.addSection s = some rows') : rows'.Present := by
  refine h.descend (fun _ rows rows' h ho => ?_) ha
  unfold openHere at ho
  split at ho
  case h_5 => cases ho
  all_goals obtain ⟨t, -, rfl⟩ := Option.map_eq_some_iff.1 ho
  · exact h.append nofun
  · exact h.append nofun
  · exact h.put nofun
  · exact h.put nofun

theorem Present.foldlM {α : Type} {change : Rows → α → Option Rows} {items : List α}
    (h : rows.Present)
    (hchange : ∀ a ∈ items, ∀ rows rows', Present rows → change rows a = some rows' → Present rows')
    (hf : items.foldlM change rows = some rows') : rows'.Present := by
  induction items generalizing rows with
  | nil =>
    cases hf
    exact h
  | cons a items ih =>
    simp only [List.foldlM_cons, bind, Option.bind_eq_some_iff] at hf
    obtain ⟨next, hnext, hf⟩ := hf
    have hn := hchange a List.mem_cons_self rows next h hnext
    exact ih hn (fun b hb => hchange b (List.mem_cons_of_mem _ hb)) hf

end Rows

theorem exists_node_of_mem_rowsData {rows : Rows} {r : String × Data} (h : r ∈ rowsData rows) :
    ∃ n ∈ rows, r.2 = n.2.data := by
  induction rows with
  | nil => exact absurd h List.not_mem_nil
  | cons row rows ih =>
    rcases List.mem_cons.1 h with rfl | h
    · exact ⟨row, List.mem_cons_self, rfl⟩
    · obtain ⟨n, hn, hr⟩ := ih h
      exact ⟨n, List.mem_cons_of_mem _ hn, hr⟩

/-- **A document is a table, and no row of it is null.** -/
theorem exists_rows_of_read {text : String} {d : Data} (h : read text = some d) :
    ∃ rows, d = .table rows ∧ ∀ r ∈ rows, r.2 ≠ .null := by
  simp only [read, documentTable, bind, Option.bind_eq_some_iff] at h
  obtain ⟨lines, hlines, first, hfirst, rows, hrows, hd⟩ := h
  cases hd
  have hpairs : ∀ p ∈ (sections lines).1, p.value ≠ .null := fun p hp =>
    readLines_ne_null hlines p (pair_mem_of_mem_sections hp)
  have hpresent : first.Present :=
    Rows.present_nil.foldlM (fun p hp _ _ h hi => h.insert (hpairs p hp) hi) hfirst
  have hall : rows.Present := hpresent.foldlM (fun _ _ _ _ h ha => h.addSection ha) hrows
  refine ⟨rowsData rows, rfl, fun r hr => ?_⟩
  obtain ⟨n, hn, hr⟩ := exists_node_of_mem_rowsData hr
  rw [hr]
  exact hall n hn

end PortRoster.Toml
