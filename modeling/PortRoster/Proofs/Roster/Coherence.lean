import Mathlib.Data.List.Nodup
import Mathlib.Data.List.Range
import PortRoster.Proofs.Roster.Listing
import PortRoster.Source.Bluetooth
import PortRoster.Source.Serial
import PortRoster.Source.Uart

/-! # Coherent rosters

The serial number of an entry is not its position: serial ports are put in order after they have
been given their numbers, and identifiers travel with the entries. What does hold is that the serial
numbers of a roster, read in any order, are the numbers below its size, in 16 bits. Together with
"at most one mark", "the identifier names the kind" and "values are in canonical spelling" this is
`Coherent`, which every move keeps.

* `coherent_of_reaches`: what comes about by moves from a coherent roster is coherent.
* `Coherent.nodup_ids`: up to 65536 entries, no identifier repeats.
* `reachable_sound`: all this holds after every build and every sequence of calls. -/

namespace PortRoster

namespace Roster

/-- A roster as a program may have it: an empty one, a built one, or one after a further call. -/
inductive Reachable : Roster → Prop
  | empty (table : KindTable) : Reachable (empty table)
  | build (b : Builder) (saved : SavedPort) : Reachable (b.build saved)
  | perform (op : Operation) {r : Roster} (h : Reachable r) : Reachable (op.perform r)

theorem Reachable.run {r : Roster} (h : r.Reachable) (ops : List Operation) :
    (r.run ops).Reachable := by
  induction ops generalizing r with
  | nil => exact h
  | cons op ops ih => exact ih (h.perform op)

theorem Reachable.exists_reaches {r : Roster} (h : r.Reachable) :
    ∃ table, (Roster.empty table).Reaches r := by
  induction h with
  | empty table => exact ⟨table, .refl⟩
  | build b saved => exact ⟨b.table, b.reaches_build saved⟩
  | perform op _ ih =>
    obtain ⟨table, h⟩ := ih
    exact ⟨table, h.trans (change_perform op _).reaches⟩

/-! ### What moves leave alone -/

theorem Move.table_eq {r r' : Roster} (h : Move r r') : r'.table = r.table := by
  cases h <;> rfl

theorem Move.unmarked_prefix {r r' : Roster} (h : Move r r') : r.unmarked <+: r'.unmarked := by
  cases h with
  | add items es h => rw [unmarked_append]; exact List.prefix_append _ _
  | mark i => exact ⟨[], by rw [unmarked_selectAt, List.append_nil]⟩

theorem table_of_reaches {r r' : Roster} (h : r.Reaches r') : r'.table = r.table := by
  induction h with
  | refl => rfl
  | tail _ hm ih => rw [hm.table_eq, ih]

theorem unmarked_prefix_of_reaches {r r' : Roster} (h : r.Reaches r') :
    r.unmarked <+: r'.unmarked := by
  induction h with
  | refl => exact List.prefix_refl _
  | tail _ hm ih => exact ih.trans hm.unmarked_prefix

/-! ### Coherence -/

/-- The invariant of rosters. Except for the marks it speaks of the entries without their marks. -/
structure Coherent (r : Roster) : Prop where
  marked : r.marked.length ≤ 1
  kind : ∀ e ∈ r.unmarked, e.id.kind = e.kind
  /-- The serial numbers are the numbers below the size, in 16 bits and in some order. -/
  serials : (r.unmarked.map (·.id.serial)).Perm ((List.range r.size).map (· % serialBound))
  canonical : ∀ e ∈ r.unmarked, e.kind.key.canonical e.value = e.value

theorem coherent_empty (table : KindTable) : (empty table).Coherent where
  marked := Nat.zero_le _
  kind _ h := absurd h List.not_mem_nil
  serials := .refl _
  canonical _ h := absurd h List.not_mem_nil

theorem map_serial_newEntries (r : Roster) (items : List Item) :
    (r.newEntries items).map (·.id.serial) =
      ((List.range items.length).map (r.size + ·)).map (· % serialBound) := by
  unfold newEntries Entry.ofItems
  refine List.ext_getElem (by simp) fun i _ _ => ?_
  simp [Entry.ofItem]

theorem coherent_entry_of_mem_newEntries {r : Roster} {items : List Item} {e : Entry}
    (h : e ∈ r.newEntries items) :
    e.id.kind = e.kind ∧ e.kind.key.canonical e.value = e.value := by
  obtain ⟨i, _, rfl⟩ := List.mem_mapIdx.1 h
  exact ⟨PortId.kind_encode _ _, Entry.value_ofItem _ _⟩

/-- Adding entries keeps the invariant: the new serial numbers are the next ones, whatever order the
entries are put in. -/
theorem Coherent.append {r : Roster} (hr : r.Coherent) {items : List Item} {es : List Entry}
    (h : es.Perm (r.newEntries items)) : (r.append es).Coherent := by
  have hnew : ∀ e ∈ es, e ∈ r.newEntries items := fun e he => h.mem_iff.1 he
  have hum : es.map Entry.unmarked = es := by
    refine (List.map_congr_left fun e he => ?_).trans (List.map_id _)
    obtain ⟨i, _, rfl⟩ := List.mem_mapIdx.1 (hnew e he)
    rfl
  have hsize : (r.append es).size = r.size + items.length := by
    have hl := h.length_eq
    rw [newEntries, Entry.length_ofItems] at hl
    simp [size, Roster.append, hl]
  refine ⟨?_, ?_, ?_, ?_⟩
  · rw [r.marked_append fun e he => Entry.selected_of_mem_ofItems (hnew e he)]
    exact hr.marked
  · intro e he
    rw [unmarked_append, hum] at he
    rcases List.mem_append.1 he with he | he
    · exact hr.kind e he
    · exact (coherent_entry_of_mem_newEntries (hnew e he)).1
  · have hs := h.map (·.id.serial)
    rw [map_serial_newEntries] at hs
    rw [unmarked_append, hum, List.map_append, hsize, List.range_add, List.map_append]
    exact hr.serials.append hs
  · intro e he
    rw [unmarked_append, hum] at he
    rcases List.mem_append.1 he with he | he
    · exact hr.canonical e he
    · exact (coherent_entry_of_mem_newEntries (hnew e he)).2

theorem Coherent.selectAt {r : Roster} (hr : r.Coherent) (i : Fin r.size) :
    (r.selectAt i).Coherent where
  marked := by rw [marked_selectAt]; exact Nat.le_refl 1
  kind := by rw [unmarked_selectAt]; exact hr.kind
  serials := by rw [unmarked_selectAt, size_selectAt]; exact hr.serials
  canonical := by rw [unmarked_selectAt]; exact hr.canonical

/-- **What comes about by moves from a coherent roster is coherent.** -/
theorem coherent_of_reaches {r r' : Roster} (h : r.Reaches r') (hr : r.Coherent) :
    r'.Coherent := by
  induction h with
  | refl => exact hr
  | tail _ hm ih =>
    cases hm with
    | add items es h => exact ih.append h
    | mark i => exact ih.selectAt i

theorem Reachable.coherent {r : Roster} (h : r.Reachable) : r.Coherent := by
  obtain ⟨table, h⟩ := h.exists_reaches
  exact coherent_of_reaches h (coherent_empty table)

/-! ### What coherence gives -/

section Coherent
variable {r : Roster} (hr : r.Coherent)
include hr

theorem Coherent.kind_eq {e : Entry} (h : e ∈ r.entries) : e.id.kind = e.kind :=
  hr.kind e.unmarked (mem_unmarked h)

theorem Coherent.canonical_eq {e : Entry} (h : e ∈ r.entries) :
    e.kind.key.canonical e.value = e.value :=
  hr.canonical e.unmarked (mem_unmarked h)

theorem Coherent.perm_serials :
    (r.entries.map (·.id.serial)).Perm ((List.range r.size).map (· % serialBound)) := by
  have h := hr.serials
  rwa [unmarked, List.map_map] at h

theorem Coherent.nodup_serials (hs : r.size ≤ serialBound) :
    (r.entries.map (·.id.serial)).Nodup := by
  have h : (List.range r.size).map (· % serialBound) = List.range r.size := by
    refine (List.map_congr_left fun i hi => ?_).trans (List.map_id _)
    exact Nat.mod_eq_of_lt (Nat.lt_of_lt_of_le (List.mem_range.1 hi) hs)
  rw [hr.perm_serials.nodup_iff, h]
  exact List.nodup_range

/-- **Up to 65536 entries, no identifier repeats.** -/
theorem Coherent.nodup_ids (hs : r.size ≤ serialBound) : (r.entries.map (·.id)).Nodup := by
  have h := hr.nodup_serials hs
  rw [show (fun e : Entry => e.id.serial) = PortId.serial ∘ (·.id) from rfl, ← List.map_map] at h
  exact h.of_map _

theorem Coherent.eq_of_id_eq (hs : r.size ≤ serialBound) {e e' : Entry} (he : e ∈ r.entries)
    (he' : e' ∈ r.entries) (h : e.id = e'.id) : e = e' :=
  List.inj_on_of_nodup_map (hr.nodup_ids hs) he he' h

theorem Coherent.find?_id (hs : r.size ≤ serialBound) {p : Entry → Bool} {e : Entry}
    (he : e ∈ r.entries) (hp : ∀ e', p e' ↔ e'.id = e.id) : r.entries.find? p = some e := by
  cases h : r.entries.find? p with
  | none =>
    rw [List.find?_eq_none] at h
    exact absurd ((hp e).2 rfl) (h e he)
  | some e' =>
    have hid : e'.id = e.id := (hp e').1 (List.find?_some h)
    rw [hr.eq_of_id_eq hs (List.mem_of_find?_eq_some h) he hid]

theorem Coherent.get?_id (hs : r.size ≤ serialBound) {e : Entry} (he : e ∈ r.entries) :
    r.get? e.id = some e :=
  hr.find?_id hs he fun e' => by simp

theorem Coherent.indexOf?_entryAt (hs : r.size ≤ serialBound) (i : Fin r.size) :
    r.indexOf? (r.entryAt i).id = some i := by
  unfold indexOf?
  rcases position?_cases (r := r) (fun e => e.id = (r.entryAt i).id) with ⟨j, hj, -, h⟩ | ⟨hn, -⟩
  · have hi : (i : Nat) < (r.entries.map (·.id)).length := by rw [List.length_map]; exact i.isLt
    have hj' : (j : Nat) < (r.entries.map (·.id)).length := by rw [List.length_map]; exact j.isLt
    have hid : (r.entries.map (·.id))[(j : Nat)] = (r.entries.map (·.id))[(i : Nat)] := by
      rw [List.getElem_map, List.getElem_map]
      exact of_decide_eq_true hj
    have hji : (j : Nat) = i := (hr.nodup_ids hs).getElem_inj_iff.1 hid
    rw [h, Fin.ext hji]
  · exact absurd (decide_eq_true rfl) (hn (r.entryAt i) (r.entryAt_mem i))

end Coherent

/-- **Every reachable roster is sound.** At most one entry is selected, identifiers name the kinds of
their entries, the serial numbers are the numbers below the size in 16 bits, and addresses are in
canonical spelling. Up to 65536 entries, an identifier leads back to its own entry. -/
theorem reachable_sound {r : Roster} (h : r.Reachable) :
    r.marked.length ≤ 1 ∧
      (∀ e ∈ r.entries, e.id.kind = e.kind) ∧
      (r.entries.map (·.id.serial)).Perm ((List.range r.size).map (· % 65536)) ∧
      (r.size ≤ 65536 → (r.entries.map (·.id)).Nodup ∧
        ∀ i : Fin r.size, r.indexOf? (r.entryAt i).id = some i ∧
          r.get? (r.entryAt i).id = some (r.entryAt i)) ∧
      ∀ e ∈ r.entries, e.kind.usesMac → ValueKey.canonicalMac e.value = e.value := by
  have hr := h.coherent
  refine ⟨hr.marked, fun e he => hr.kind_eq he, hr.perm_serials, ?_, ?_⟩
  · intro hs
    refine ⟨hr.nodup_ids hs, fun i => ?_⟩
    exact ⟨hr.indexOf?_entryAt hs i, hr.get?_id hs (r.entryAt_mem i)⟩
  · intro e he hm
    have hk : e.kind.key = .bluetoothMac := by simpa [Kind.usesMac] using hm
    have hc := hr.canonical_eq he
    rwa [hk] at hc

end Roster

/-! ### A host and its roster -/

/-- A host with two serial ports, found in another order than that of their labels, one bonded
device and two UART lines. -/
def Builder.workbench : Builder where
  table := .basic
  sources :=
    { serial := .devicePaths .serial ["/dev/ttyUSB10", "/dev/ttyUSB9"]
      bluetooth := .bonded [⟨"aa:bb", some "Vario", .ble⟩]
      uart := .uartLines 2 [] }

theorem Builder.size_workbench_le (saved : SavedPort) : (workbench.build saved).size ≤ 17 := by
  have h : (workbench.build saved).size ≤ workbench.table.size + 2 + 1 + 0 + 2 + 1 :=
    workbench.size_build_le saved
  have ht := workbench.table.size_le
  omega

namespace Roster

/-- A built roster after two calls, one of which names a device that is not there. -/
def used : Roster :=
  (Builder.workbench.build (.serial "/dev/ttyS0")).run
    [.reconcile .rfcomm " cc:Dd", .select (.encode .tcpClient 1)]

theorem size_used_le : used.size ≤ 65536 := by
  have hb := Builder.size_workbench_le (.serial "/dev/ttyS0")
  have hr : used.size ≤ (Builder.workbench.build (.serial "/dev/ttyS0")).size + 2 :=
    size_run_le _ _
  omega

theorem reachable_sound_used :
    used.Reachable ∧ used.size ≤ 65536 ∧ used.marked.length ≤ 1 ∧
      (used.entries.map (·.id)).Nodup := by
  have h : used.Reachable := (Reachable.build Builder.workbench _).run _
  obtain ⟨hmarked, -, -, hids, -⟩ := reachable_sound h
  exact ⟨h, size_used_le, hmarked, (hids size_used_le).1⟩

end Roster

end PortRoster
