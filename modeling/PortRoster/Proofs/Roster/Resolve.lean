import PortRoster.Proofs.PortId.Word
import PortRoster.Proofs.Roster.Coherence
import PortRoster.Roster.Resolve

/-! # Words and entries

A word is read in two ways: as a position among the fixed kinds, and as an identifier. Both readings
meet in the entries, since the fixed kinds stand at the front of every roster that was built
(`Fronted`), each with its position for a serial number, and since an identifier below 65536 is of
the kind `disabled`.

* `Fronted.lookup_front`: the identifier of an entry at the front leads back to it.
* `lookup_id`: up to 65536 entries, every identifier leads back to its entry.
* `resolve_coherent`: the kind, the entry and the saved port of a word agree. -/

namespace PortRoster

namespace PortId

theorem size_le_raw (t : KindTable) {id : PortId} (h : id.kind ≠ .disabled) :
    t.size ≤ id.raw.toNat := by
  have hd : id.kind.discriminant ≠ 0 := fun hz => h (by
    have := Kind.ofDiscriminant?_discriminant id.kind
    rw [hz] at this
    exact (Option.some.inj this).symm)
  have ht := t.size_le
  have hr := id.toNat_raw
  unfold serialBound at hr
  omega

end PortId

theorem KindTable.get?_zero (t : KindTable) : t.get? 0 = some ⟨.disabled, "Disabled", []⟩ := by
  rw [get?, ← List.head?_eq_getElem?]
  exact t.disabled_first

namespace Roster

/-- The roster starts with the entries for the fixed kinds of its table. -/
def Fronted (r : Roster) : Prop :=
  Entry.ofItems 0 (r.table.kinds.map FixedKind.item) <+: r.unmarked

theorem fronted_of_reaches {r r' : Roster} (h : r.Reaches r') (hf : r.Fronted) : r'.Fronted := by
  unfold Fronted
  rw [table_of_reaches h]
  exact hf.trans (unmarked_prefix_of_reaches h)

theorem fronted_addFixed (table : KindTable) : (empty table).addFixed.Fronted := by
  unfold Fronted addFixed pushAll
  rw [unmarked_append, newEntries, Entry.map_unmarked_ofItems]
  exact List.prefix_refl _

variable {r : Roster} {raw : UInt32} {e : Entry}

/-! ### The two readings of a word -/

theorem lookup_of_lt (h : raw.toNat < r.table.size) : r.lookup raw = r.entries[raw.toNat]? := by
  unfold lookup formOf RawForm.classify
  rw [if_pos h]

theorem lookup_of_le (h : r.table.size ≤ raw.toNat) :
    r.lookup raw = r.entries.find? fun e => e.id.raw = raw := by
  unfold lookup formOf RawForm.classify
  rw [if_neg (Nat.not_lt.2 h)]

theorem lookup_ofNat {i : Nat} (hi : i < r.table.size) :
    r.lookup (UInt32.ofNat i) = r.entries[i]? := by
  have ht := r.table.size_le
  have hraw : (UInt32.ofNat i).toNat = i := UInt32.toNat_ofNat_of_lt' (by unfold UInt32.size; omega)
  rw [lookup_of_lt (by rwa [hraw]), hraw]

theorem resolveKind_of_lt (h : raw.toNat < r.table.size) :
    r.resolveKind raw = ((r.table.get? raw.toNat).map FixedKind.kind).getD .disabled := by
  unfold resolveKind formOf RawForm.classify
  rw [if_pos h]

theorem resolveKind_of_le {id : PortId} (h : r.table.size ≤ id.raw.toNat) :
    r.resolveKind id.raw = id.kind := by
  unfold resolveKind formOf RawForm.classify
  rw [if_neg (Nat.not_lt.2 h)]
  show (kindOf? id.raw).getD .disabled = id.kind
  rw [id.kindOf?_raw]
  rfl

/-! ### The front -/

theorem Fronted.getElem? (hf : r.Fronted) {i : Nat} (hi : i < r.table.size) :
    ∃ s e, r.table.get? i = some s ∧ r.entries[i]? = some e ∧
      e.id = .encode s.kind i ∧ e.kind = s.kind := by
  have hlen : i < (Entry.ofItems 0 (r.table.kinds.map FixedKind.item)).length := by
    rw [Entry.length_ofItems, List.length_map]
    exact hi
  have hr : i < r.entries.length := by
    have := Nat.lt_of_lt_of_le hlen hf.length_le
    rwa [unmarked, List.length_map] at this
  have hi' : i < r.table.kinds.length := hi
  have h := hf.getElem hlen
  simp only [Entry.ofItems, unmarked, List.getElem_mapIdx, List.getElem_map, Nat.zero_add] at h
  have hid := congrArg Entry.id h.symm
  have hkind := congrArg (fun e : Entry => e.kind) h.symm
  exact ⟨r.table.kinds[i], r.entries[i], List.getElem?_eq_getElem hi',
    List.getElem?_eq_getElem hr, hid, hkind⟩

theorem Fronted.serial_eq (hf : r.Fronted) {i : Nat} (hi : i < r.table.size)
    (h : r.entries[i]? = some e) : e.id.serial = i := by
  obtain ⟨s, d, -, hd, hs, -⟩ := hf.getElem? hi
  rw [h] at hd
  cases hd
  have ht := r.table.size_le
  rw [hs, PortId.serial_encode]
  exact Nat.mod_eq_of_lt (by unfold serialBound; omega)

theorem Fronted.exists_disabled (hf : r.Fronted) : ∃ e ∈ r.entries, e.kind = .disabled := by
  have hfirst := r.table.get?_zero
  have hpos : 0 < r.table.size := (List.getElem?_eq_some_iff.1 hfirst).1
  obtain ⟨s, e, hs, he, -, hkind⟩ := hf.getElem? hpos
  rw [hfirst] at hs
  cases hs
  exact ⟨e, List.mem_of_getElem? he, hkind⟩

/-- **The identifier of an entry at the front leads back to it.** This needs no bound on the size:
entries before it have smaller serial numbers. -/
theorem Fronted.lookup_front (hf : r.Fronted) {i : Nat} (hi : i < r.table.size)
    (h : r.entries[i]? = some e) : r.lookup e.id.raw = some e := by
  have hserial := hf.serial_eq hi h
  rcases Nat.lt_or_ge e.id.raw.toNat r.table.size with hlt | hle
  · have ht := r.table.size_le
    have hraw : e.id.raw.toNat = i := by
      unfold PortId.serial serialBound at hserial
      omega
    rw [lookup_of_lt hlt, hraw, h]
  · rw [lookup_of_le hle]
    obtain ⟨hlen, he⟩ := List.getElem?_eq_some_iff.1 h
    refine List.find?_eq_some_iff_getElem.2 ⟨decide_eq_true rfl, i, hlen, he, ?_⟩
    intro j hj
    have hjlen : j < r.entries.length := Nat.lt_trans hj hlen
    have hjs := hf.serial_eq (Nat.lt_trans hj hi) (List.getElem?_eq_getElem hjlen)
    rw [Bool.not_eq_true', decide_eq_false_iff_not]
    intro hraw
    have hsame : r.entries[j].id.serial = e.id.serial := by
      unfold PortId.serial
      rw [hraw]
    omega

theorem Fronted.exists_lookup (hf : r.Fronted) {u : Entry}
    (hu : u ∈ Entry.ofItems 0 (r.table.kinds.map FixedKind.item)) :
    ∃ e, r.lookup e.id.raw = some e ∧ e.id = u.id ∧ e.kind = u.kind := by
  obtain ⟨i, hi, rfl⟩ := List.mem_mapIdx.1 hu
  have hi' : i < r.table.size := by
    rw [List.length_map] at hi
    exact hi
  obtain ⟨s, e, hs, he, hid, hkind⟩ := hf.getElem? hi'
  obtain ⟨_, rfl⟩ := List.getElem?_eq_some_iff.1 hs
  refine ⟨e, hf.lookup_front hi' he, ?_⟩
  rw [List.getElem_map, Nat.zero_add]
  exact ⟨hid, hkind⟩

/-! ### Entries and their words -/

theorem resolveKind_of_lookup (hr : r.Coherent) (hf : r.Fronted) (h : r.lookup raw = some e) :
    r.resolveKind raw = e.kind := by
  rcases Nat.lt_or_ge raw.toNat r.table.size with hlt | hle
  · obtain ⟨s, d, hs, hd, -, hkind⟩ := hf.getElem? hlt
    rw [lookup_of_lt hlt, hd] at h
    cases h
    rw [resolveKind_of_lt hlt, hs, hkind]
    rfl
  · rw [lookup_of_le hle] at h
    have he := List.mem_of_find?_eq_some h
    have hraw : e.id.raw = raw := by simpa using List.find?_some h
    subst hraw
    rw [resolveKind_of_le hle, hr.kind_eq he]

theorem toSaved_of_lookup (hr : r.Coherent) (hf : r.Fronted) (h : r.lookup raw = some e) :
    r.toSaved raw = some (.ofValue e.kind e.value) := by
  unfold toSaved
  rw [h, resolveKind_of_lookup hr hf h]
  rfl

theorem Coherent.lookup_of_le (hr : r.Coherent) (hs : r.size ≤ serialBound) (he : e ∈ r.entries)
    (h : r.table.size ≤ e.id.raw.toNat) : r.lookup e.id.raw = some e := by
  rw [Roster.lookup_of_le h]
  refine hr.find?_id hs he fun d => ?_
  rw [decide_eq_true_iff]
  exact ⟨PortId.ext_raw, congrArg PortId.raw⟩

/-- **Up to 65536 entries, every identifier leads back to its entry.** -/
theorem lookup_id (hr : r.Coherent) (hf : r.Fronted) (hs : r.size ≤ serialBound)
    (he : e ∈ r.entries) : r.lookup e.id.raw = some e := by
  rcases Nat.lt_or_ge e.id.raw.toNat r.table.size with hlt | hle
  · obtain ⟨_, d, -, hd, -⟩ := hf.getElem? hlt
    have ht := r.table.size_le
    have hserial : e.id.serial = d.id.serial := by
      rw [hf.serial_eq hlt hd]
      exact Nat.mod_eq_of_lt (by unfold serialBound; omega)
    have hed : e = d :=
      List.inj_on_of_nodup_map (hr.nodup_serials hs) he (List.mem_of_getElem? hd) hserial
    rw [lookup_of_lt hlt, hd, hed]
  · exact hr.lookup_of_le hs he hle

end Roster

/-! ### Built rosters -/

namespace Builder

variable (b : Builder) (saved : SavedPort)

theorem fronted_fixedStage : (b.fixedStage saved).Fronted :=
  Roster.fronted_of_reaches (Roster.change_settleFixed saved).reaches
    (Roster.fronted_addFixed b.table)

theorem fronted_build : (b.build saved).Fronted :=
  Roster.fronted_of_reaches (b.reaches_build_of_fixedStage saved) (b.fronted_fixedStage saved)

theorem table_build : (b.build saved).table = b.table :=
  Roster.table_of_reaches (b.reaches_build saved)

theorem kind_ne_disabled_of_mem
    (h : ∀ family, ∀ d ∈ (b.sources.get family).found, d.kind ≠ .disabled) {i : Item}
    (hi : i ∈ b.serialItems ++ b.serialGap saved ++ b.bluetoothItems ++ b.bluetoothGap saved ++
      b.usbItems ++ b.usbGap saved ++ b.uartItems) : i.kind ≠ .disabled := by
  have hmac (hm : saved.usesMac) : saved.kind ≠ .disabled := by
    intro hk
    simp [SavedPort.usesMac, hk, Kind.usesMac, Kind.key] at hm
  simp only [List.mem_append, or_assoc] at hi
  rcases hi with hi | hi | hi | hi | hi | hi | hi
  · obtain ⟨d, hd, rfl⟩ := List.mem_map.1 (List.mem_mergeSort.1 hi)
    exact h .serial d hd
  · obtain ⟨-, rfl, -⟩ := Item.mem_ite_missingFrom.1 hi
    exact fun hk => by cases hk
  · obtain ⟨d, hd, rfl⟩ := List.mem_map.1 hi
    exact h .bluetooth d hd
  · obtain ⟨hw, rfl, -⟩ := Item.mem_ite_missingFrom.1 hi
    exact hmac hw.1
  · obtain ⟨d, hd, rfl⟩ := List.mem_map.1 hi
    exact h .usbSerial d hd
  · obtain ⟨-, rfl, -⟩ := Item.mem_ite_missingFrom.1 hi
    exact fun hk => by cases hk
  · obtain ⟨d, hd, rfl⟩ := List.mem_map.1 hi
    exact h .uart d hd

/-- Behind the fixed kinds there is no entry of kind `disabled` unless a source reports one: no call
adds a placeholder for that kind, since the table starts with it. -/
theorem exists_unmarked_run_build
    (h : ∀ family, ∀ d ∈ (b.sources.get family).found, d.kind ≠ .disabled)
    (ops : List Operation) :
    ∃ rest, ((b.build saved).run ops).unmarked =
        Entry.ofItems 0 (b.table.kinds.map FixedKind.item) ++ rest ∧
      ∀ e ∈ rest, e.kind ≠ .disabled := by
  obtain ⟨built, hbuilt⟩ := b.fronted_build saved
  rw [table_build] at hbuilt
  obtain ⟨added, hadded, -, hnew⟩ := Roster.exists_unmarked_run (b.build saved) ops
  refine ⟨built ++ added, by rw [hadded, ← hbuilt, List.append_assoc], ?_⟩
  intro e he
  rcases List.mem_append.1 he with he | he
  · have hitems : b.fixedItems ++ built.map Entry.toItem = (b.build saved).items := by
      rw [← Roster.map_toItem_unmarked, ← hbuilt, List.map_append, Entry.map_toItem_ofItems,
        List.map_map]
      congr 1
      exact List.map_congr_left fun s _ => s.canonical_item.symm
    rw [items_build] at hitems
    simp only [List.append_assoc] at hitems
    have hrest := List.append_cancel_left hitems
    have hmem : e.toItem ∈ built.map Entry.toItem := List.mem_map_of_mem he
    rw [hrest] at hmem
    refine b.kind_ne_disabled_of_mem saved h (i := e.toItem) ?_
    simpa only [List.append_assoc] using hmem
  · intro hk
    obtain ⟨d, hd, hdk⟩ := (b.fronted_build saved).exists_disabled
    refine hnew e he d.unmarked (Roster.mem_unmarked hd) ?_
    rw [hk, Entry.addresses_of_key_none rfl]
    exact hdk

theorem fronted_run_build (ops : List Operation) : ((b.build saved).run ops).Fronted :=
  Roster.fronted_of_reaches (Roster.reaches_run _ ops) (b.fronted_build saved)

theorem coherent_run_build (ops : List Operation) : ((b.build saved).run ops).Coherent :=
  ((Roster.Reachable.build b saved).run ops).coherent

theorem table_run_build (ops : List Operation) : ((b.build saved).run ops).table = b.table :=
  (Roster.table_of_reaches (Roster.reaches_run _ ops)).trans (b.table_build saved)

/-- Unless a source reports the kind `disabled`, the kind that an identifier stands for is that of
its entry, in a list of any size. -/
theorem resolveKind_id
    (h : ∀ family, ∀ d ∈ (b.sources.get family).found, d.kind ≠ .disabled)
    (ops : List Operation) {e : Entry} (he : e ∈ ((b.build saved).run ops).entries) :
    ((b.build saved).run ops).resolveKind e.id.raw = e.kind := by
  have hf := b.fronted_run_build saved ops
  have hr := b.coherent_run_build saved ops
  obtain ⟨rest, hrest, hne⟩ := b.exists_unmarked_run_build saved h ops
  have hmem := Roster.mem_unmarked he
  rw [hrest, List.mem_append] at hmem
  rcases hmem with hfront | hbehind
  · rw [← table_run_build b saved ops] at hfront
    obtain ⟨d, hd, hid, hkind⟩ := hf.exists_lookup hfront
    show ((b.build saved).run ops).resolveKind e.unmarked.id.raw = e.unmarked.kind
    rw [← hid, ← hkind, Roster.resolveKind_of_lookup hr hf hd]
  · have hk : e.id.kind ≠ .disabled := by
      rw [hr.kind_eq he]
      exact hne e.unmarked hbehind
    rw [Roster.resolveKind_of_le (PortId.size_le_raw _ hk), hr.kind_eq he]

/-- **The kind, the entry and the saved port of a word agree.** For a word of any form the kind is
that of its entry, and the saved port is made from the entry. A position among the fixed kinds and
the identifier that stands there are two words for one entry. The kind of an identifier is that of
its entry, unless a source reports the kind `disabled` and the list is longer than 65536; up to
65536 entries the identifier leads back to the entry. -/
theorem resolve_coherent {b : Builder} {saved : SavedPort} {ops : List Operation} {r : Roster}
    (h : (b.build saved).run ops = r) :
    (∀ raw, (∀ e, r.lookup raw = some e →
        r.resolveKind raw = e.kind ∧ r.toSaved raw = some (.ofValue e.kind e.value)) ∧
      (r.lookup raw = none → r.toSaved raw = none)) ∧
    (∀ i < r.table.size, ∃ e, r.entries[i]? = some e ∧
      r.lookup (UInt32.ofNat i) = some e ∧ r.lookup e.id.raw = some e ∧
      r.resolveKind (UInt32.ofNat i) = r.resolveKind e.id.raw ∧
      r.toSaved (UInt32.ofNat i) = r.toSaved e.id.raw) ∧
    ((∀ family, ∀ d ∈ (b.sources.get family).found, d.kind ≠ .disabled) ∨ r.size ≤ 65536 →
      ∀ e ∈ r.entries, r.resolveKind e.id.raw = e.kind) ∧
    (r.size ≤ 65536 → ∀ e ∈ r.entries, r.lookup e.id.raw = some e) := by
  subst h
  have hr := b.coherent_run_build saved ops
  have hf := b.fronted_run_build saved ops
  refine ⟨?_, ?_, ?_, ?_⟩
  · intro raw
    refine ⟨fun e he => ?_, Roster.toSaved_eq_none_iff.2⟩
    exact ⟨Roster.resolveKind_of_lookup hr hf he, Roster.toSaved_of_lookup hr hf he⟩
  · intro i hi
    obtain ⟨_, e, -, he, -⟩ := hf.getElem? hi
    have hraw := hf.lookup_front hi he
    have hoffset : ((b.build saved).run ops).lookup (UInt32.ofNat i) = some e := by
      rw [Roster.lookup_ofNat hi, he]
    refine ⟨e, he, hoffset, hraw, ?_, ?_⟩
    · rw [Roster.resolveKind_of_lookup hr hf hoffset, Roster.resolveKind_of_lookup hr hf hraw]
    · rw [Roster.toSaved_of_lookup hr hf hoffset, Roster.toSaved_of_lookup hr hf hraw]
  · rintro (hno | hs) e he
    · exact b.resolveKind_id saved hno ops he
    · exact Roster.resolveKind_of_lookup hr hf (Roster.lookup_id hr hf hs he)
  · exact fun hs e he => Roster.lookup_id hr hf hs he

/-- After two calls, position 1 and the identifier there are words for one entry. -/
theorem resolve_coherent_used :
    (∃ e, Roster.used.entries[1]? = some e ∧ Roster.used.lookup 1 = some e ∧
      Roster.used.lookup e.id.raw = some e) ∧
    ∀ e ∈ Roster.used.entries, Roster.used.resolveKind e.id.raw = e.kind := by
  have h : Roster.used.table = .basic := table_run_build _ _ _
  obtain ⟨-, hfront, hkind, -⟩ := resolve_coherent (rfl : _ = Roster.used)
  obtain ⟨e, he, hoffset, hraw, -⟩ := hfront 1 (by rw [h]; decide)
  exact ⟨⟨e, he, hoffset, hraw⟩, hkind (.inr Roster.size_used_le)⟩

end Builder

end PortRoster
