import PortRoster.Proofs.Roster.Saving

/-! # Rosters that are started empty

A roster may be started empty and filled by calls alone. No entry is ever put in order then, so each
has its position for a serial number (`Placed`), and its identifier leads back to it as in a built
roster. But a word below the size of the table is taken for a position among the fixed kinds, and
these do not stand at the front. So an entry of kind `disabled` that is added behind another one, at
a position of the table, is *misread*: its identifier stands for the fixed kind of that position.

* `placed_run`: calls leave the entries at the positions that their identifiers were made for.
* `Placed.lookup_id`: up to 65536 entries, every identifier leads back to its entry.
* `resolves_run_empty_iff`: an identifier stands for its own kind unless the entry is misread. -/

namespace PortRoster

namespace KindTable

theorem kind_eq_disabled_iff {t : KindTable} {i : Nat} {s : FixedKind} (h : t.get? i = some s) :
    s.kind = .disabled ↔ i = 0 := by
  have hfirst := t.get?_zero
  constructor
  · intro hk
    have hlt : i < (t.kinds.map FixedKind.kind).length := by
      rw [List.length_map]
      exact (List.getElem?_eq_some_iff.1 h).1
    refine (List.getElem?_inj hlt t.nodup_kinds).1 ?_
    unfold get? at h hfirst
    rw [List.getElem?_map, List.getElem?_map, h, hfirst]
    exact congrArg some hk
  · rintro rfl
    rw [hfirst] at h
    cases h
    rfl

end KindTable

namespace Roster

/-! ### Entries at their positions -/

/-- Every entry stands at the position that its identifier was made for. -/
def Placed (r : Roster) : Prop :=
  ∀ (i : Nat) (u : Entry), r.unmarked[i]? = some u → u.id = .encode u.kind i

theorem placed_empty (table : KindTable) : (empty table).Placed := by
  intro i u hu
  simp [empty, unmarked] at hu

theorem Placed.of_change {r r' : Roster} (hr : r.Placed) (h : Change r r') : r'.Placed := by
  cases h with
  | same => exact hr
  | mark i =>
    unfold Placed
    rw [unmarked_selectAt]
    exact hr
  | add kind value label h =>
    intro i u hu
    rw [unmarked_pushSelected] at hu
    rcases Nat.lt_trichotomy i r.unmarked.length with hlt | heq | hgt
    · rw [List.getElem?_append_left hlt] at hu
      exact hr i u hu
    · rw [heq, List.getElem?_concat_length] at hu
      cases hu
      rw [heq, length_unmarked]
      rfl
    · rw [List.getElem?_eq_none (by rw [List.length_append]; exact hgt)] at hu
      cases hu

/-- **Calls leave the entries at the positions that their identifiers were made for.** -/
theorem placed_run {r : Roster} (hr : r.Placed) (ops : List Operation) : (r.run ops).Placed := by
  induction ops generalizing r with
  | nil => exact hr
  | cons op ops ih => exact ih (hr.of_change (change_perform op r))

/-! ### Identifiers -/

/-- The entry at the position is misread: its identifier is below the size of the table, and the
fixed kind at the position is not the kind of the entry. -/
def Misread (r : Roster) (i : Nat) (e : Entry) : Prop :=
  e.kind = .disabled ∧ 0 < i ∧ i < r.table.size

variable {r : Roster} {i : Nat} {e : Entry}

theorem Placed.id_eq (hr : r.Placed) (he : r.entries[i]? = some e) : e.id = .encode e.kind i :=
  hr i e.unmarked (by rw [unmarked, List.getElem?_map, he]; rfl)

theorem Placed.toNat_raw (hr : r.Placed) (hs : r.size ≤ serialBound) (he : r.entries[i]? = some e)
    (hk : e.kind = .disabled) : e.id.raw.toNat = i := by
  have hi : i < r.size := (List.getElem?_eq_some_iff.1 he).1
  have hraw : e.id.raw.toNat = Kind.disabled.discriminant * serialBound + i % serialBound := by
    rw [hr.id_eq he, hk]
    exact PortId.toNat_pack _ _
  rw [hraw, Nat.mod_eq_of_lt (Nat.lt_of_lt_of_le hi hs)]
  exact Nat.zero_add i

theorem Placed.kind_eq_disabled (hr : r.Placed) (he : r.entries[i]? = some e)
    (h : e.id.raw.toNat < r.table.size) : e.kind = .disabled := by
  by_contra hk
  have hid : e.id.kind ≠ .disabled := by
    rw [hr.id_eq he, PortId.kind_encode]
    exact hk
  exact Nat.not_lt.2 (PortId.size_le_raw r.table hid) h

/-- **Up to 65536 entries, every identifier leads back to its entry.** -/
theorem Placed.lookup_id (hr : r.Placed) (hc : r.Coherent) (hs : r.size ≤ serialBound)
    (he : r.entries[i]? = some e) : r.lookup e.id.raw = some e := by
  rcases Nat.lt_or_ge e.id.raw.toNat r.table.size with hlt | hle
  · rw [lookup_of_lt hlt, hr.toNat_raw hs he (hr.kind_eq_disabled he hlt), he]
  · exact hc.lookup_of_le hs (List.mem_of_getElem? he) hle

theorem Placed.resolveKind_of_misread (hr : r.Placed) (hs : r.size ≤ serialBound)
    (he : r.entries[i]? = some e) (h : r.Misread i e) :
    ∃ s, r.table.get? i = some s ∧ s.kind ≠ e.kind ∧ r.resolveKind e.id.raw = s.kind := by
  obtain ⟨hk, hpos, hlt⟩ := h
  have hraw := hr.toNat_raw hs he hk
  have hget : r.table.get? i = some r.table.kinds[i] := List.getElem?_eq_getElem hlt
  refine ⟨_, hget, ?_, ?_⟩
  · rw [hk]
    intro hs
    exact Nat.ne_of_gt hpos ((KindTable.kind_eq_disabled_iff hget).1 hs)
  · rw [resolveKind_of_lt (by rwa [hraw]), hraw, hget]
    rfl

theorem Placed.resolveKind_of_not_misread (hr : r.Placed) (hs : r.size ≤ serialBound)
    (he : r.entries[i]? = some e) (h : ¬ r.Misread i e) : r.resolveKind e.id.raw = e.kind := by
  rcases Nat.lt_or_ge e.id.raw.toNat r.table.size with hlt | hle
  · -- Here the identifier is a position, so the entry is the first one and `disabled` stands there.
    have hk := hr.kind_eq_disabled he hlt
    have hraw := hr.toNat_raw hs he hk
    have hzero : i = 0 := by
      by_contra hne
      exact h ⟨hk, Nat.pos_of_ne_zero hne, by rwa [hraw] at hlt⟩
    rw [resolveKind_of_lt hlt, hraw, hzero, r.table.get?_zero, hk]
    rfl
  · rw [resolveKind_of_le hle, hr.id_eq he, PortId.kind_encode]

/-- **An identifier stands for its own kind unless the entry is misread.** In a roster that is
started empty and filled by calls, up to 65536 entries, every identifier leads back to its entry.
The kind and the saved port that it stands for are those of the entry, except that a misread entry
counts as the fixed kind at its position. -/
theorem resolves_run_empty_iff {table : KindTable} {ops : List Operation} {r : Roster}
    (h : (empty table).run ops = r) (hs : r.size ≤ 65536) {i : Nat} {e : Entry}
    (he : r.entries[i]? = some e) :
    r.lookup e.id.raw = some e ∧
      (r.resolveKind e.id.raw = e.kind ↔ ¬ r.Misread i e) ∧
      (r.toSaved e.id.raw = some (.ofValue e.kind e.value) ↔ ¬ r.Misread i e) ∧
      (r.Misread i e → ∃ s, r.table.get? i = some s ∧ s.kind ≠ .disabled ∧
        r.resolveKind e.id.raw = s.kind ∧ r.toSaved e.id.raw = some (.ofKind s.kind)) := by
  subst h
  have hr := placed_run (placed_empty table) ops
  have hc := ((Reachable.empty table).run ops).coherent
  have hlookup := hr.lookup_id hc hs he
  have hsaved (kind : Kind) (hk : ((empty table).run ops).resolveKind e.id.raw = kind) :
      ((empty table).run ops).toSaved e.id.raw = some (.ofValue kind e.value) := by
    rw [toSaved, hlookup, hk]
    rfl
  refine ⟨hlookup, ⟨?_, hr.resolveKind_of_not_misread hs he⟩, ⟨?_, fun hn => ?_⟩, fun hm => ?_⟩
  · intro hkind hm
    obtain ⟨s, -, hne, hres⟩ := hr.resolveKind_of_misread hs he hm
    exact hne (hres.symm.trans hkind)
  · intro hport hm
    obtain ⟨s, -, hne, hres⟩ := hr.resolveKind_of_misread hs he hm
    rw [hsaved _ hres] at hport
    have hkinds := congrArg SavedPort.kind (Option.some.inj hport)
    rw [SavedPort.kind_ofValue, SavedPort.kind_ofValue] at hkinds
    exact hne hkinds
  · exact hsaved _ (hr.resolveKind_of_not_misread hs he hn)
  · obtain ⟨s, hget, hne, hres⟩ := hr.resolveKind_of_misread hs he hm
    have hfixed : s.kind.key = .none := by
      have := KindTable.carriesValue_of_mem (List.mem_of_getElem? hget)
      simpa [Kind.carriesValue] using this
    refine ⟨s, hget, by rwa [hm.1] at hne, hres, ?_⟩
    rw [hsaved _ hres, SavedPort.ofValue, hfixed]

/-- A roster that is started empty, and in which a serial port and then the kind `disabled` are
looked for. -/
def reversed : Roster :=
  (empty .basic).run [.reconcile .serial "/dev/ttyUSB0", .reconcile .disabled ""]

/-- In `reversed` the identifier of the entry of kind `disabled` stands for a TCP client. -/
theorem resolves_run_empty_iff_reversed :
    ∃ e, reversed.entries[1]? = some e ∧ e.kind = .disabled ∧ reversed.Misread 1 e ∧
      reversed.lookup e.id.raw = some e ∧ reversed.resolveKind e.id.raw = .tcpClient := by
  have he : reversed.entries[1]? =
      some ⟨⟨.disabled, "", "", none⟩, .encode .disabled 1, true⟩ := rfl
  have hm : reversed.Misread 1 ⟨⟨.disabled, "", "", none⟩, .encode .disabled 1, true⟩ := by
    unfold Misread
    decide
  obtain ⟨hlookup, -, -, hmisread⟩ := resolves_run_empty_iff (rfl : _ = reversed) (by decide) he
  obtain ⟨s, hget, -, hres, -⟩ := hmisread hm
  have hs : s.kind = .tcpClient := by
    have : reversed.table.get? 1 = some ⟨.tcpClient, "TCP client", []⟩ := rfl
    rw [this] at hget
    cases hget
    rfl
  exact ⟨_, he, rfl, hm, hlookup, hres.trans hs⟩

/-- So it does not hold of all rosters that are started empty that an identifier stands for the kind
and the saved port of its entry. -/
theorem not_forall_resolves_run_empty :
    ¬ ∀ (table : KindTable) (ops : List Operation), ((empty table).run ops).size ≤ 65536 →
      ∀ e ∈ ((empty table).run ops).entries,
        ((empty table).run ops).resolveKind e.id.raw = e.kind ∧
        ((empty table).run ops).lookup e.id.raw = some e ∧
        ((empty table).run ops).toSaved e.id.raw = some (.ofValue e.kind e.value) := by
  intro h
  have hmem : ⟨⟨.disabled, "", "", none⟩, .encode .disabled 1, true⟩ ∈ reversed.entries :=
    List.mem_of_getElem? (i := 1) rfl
  obtain ⟨hkind, -⟩ := h .basic [.reconcile .serial "/dev/ttyUSB0", .reconcile .disabled ""]
    (by decide) _ hmem
  have hres : reversed.resolveKind (PortId.encode .disabled 1).raw = .tcpClient := rfl
  exact absurd (hres.symm.trans hkind) (by decide)

end Roster

end PortRoster
