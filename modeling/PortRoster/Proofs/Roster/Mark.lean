import PortRoster.Proofs.Roster.Coherence

/-! # Where the mark stands

A roster *selects* a position if the entry there is marked and no other one is. The position, the
item there and the entries without their marks are all that there is to know of the entries. New
entries leave the mark where it is, and reconciling a port moves it to the first item for the port,
or to the placeholder behind the list.

* `Selects.entries_eq`: the entries are made up of the unmarked ones and the position.
* `selects_reconcileLabelled`: where reconciling puts the mark.
* `selects_addUart`: where the UART stage puts the mark. -/

namespace PortRoster

/-- The item is told from others by this kind of value, and it has this value. -/
def Item.keyed (key : ValueKey) (value : String) (i : Item) : Bool :=
  i.kind.key == key && i.value == value

theorem Item.keyed_iff {key : ValueKey} {value : String} {i : Item} :
    i.keyed key value ↔ i.kind.key = key ∧ i.value = value := by
  simp [keyed]

theorem Item.missingFrom_of_find?_eq_some {p i : Item} {l : List Item}
    (h : l.find? (keyed p.kind.key p.value) = some i) : p.missingFrom l = [] :=
  if_pos ⟨i, List.mem_of_find?_eq_some h, keyed_iff.1 (List.find?_some h)⟩

theorem Item.missingFrom_of_find?_eq_none {p : Item} {l : List Item}
    (h : l.find? (keyed p.kind.key p.value) = none) : p.missingFrom l = [p] :=
  if_neg fun ⟨i, hi, hp⟩ => List.find?_eq_none.1 h i hi (keyed_iff.2 hp)

theorem Item.findIdx_of_find?_eq_none {q : Item → Bool} {l : List Item} (h : l.find? q = none) :
    l.findIdx q = l.length :=
  List.findIdx_eq_length.2 fun i hi => Bool.eq_false_iff.2 (List.find?_eq_none.1 h i hi)

namespace Roster

/-- The entry at position `i` is selected and no other, and it shows `item`. -/
structure Selects (r : Roster) (i : Nat) (item : Item) : Prop where
  item : r.items[i]? = some item
  selected : ∀ (j : Nat) (e : Entry), r.entries[j]? = some e → (e.selected ↔ j = i)

variable {r : Roster} {i : Nat} {item : Item}

theorem getElem?_items (r : Roster) (i : Fin r.size) :
    r.items[(i : Nat)]? = some (r.entryAt i).toItem := by
  have hi : (i : Nat) < r.entries.length := i.isLt
  rw [items, List.getElem?_map, List.getElem?_eq_getElem hi]
  rfl

/-! ### One selected entry -/

theorem Selects.lt_size (h : r.Selects i item) : i < r.size := by
  rw [← length_items]
  exact (List.getElem?_eq_some_iff.1 h.item).1

theorem Selects.entries_eq (h : r.Selects i item) :
    r.entries = r.unmarked.mapIdx fun j e => { e with selected := decide (j = i) } := by
  refine List.ext_getElem (by simp [unmarked]) fun j hj _ => ?_
  have hmark : r.entries[j].selected = decide (j = i) := by
    rw [Bool.eq_iff_iff, decide_eq_true_iff]
    exact h.selected j _ (List.getElem?_eq_getElem hj)
  rw [List.getElem_mapIdx, ← hmark]
  simp only [unmarked, List.getElem_map]
  rfl

theorem Selects.selectAt_eq (h : r.Selects i item) : r.selectAt ⟨i, h.lt_size⟩ = r := by
  have hentries : (r.selectAt ⟨i, h.lt_size⟩).entries = r.entries := by
    rw [h.entries_eq]
    refine List.ext_getElem (by simp [selectAt, unmarked]) fun j _ _ => ?_
    simp [selectAt, unmarked, Entry.unmarked]
  exact congrArg (Roster.mk r.table) hentries

theorem Selects.exists_marked (h : r.Selects i item) :
    ∃ s, r.marked = [s] ∧ s ∈ r.entries ∧ s.toItem = item := by
  have hi := r.getElem?_items ⟨i, h.lt_size⟩
  refine ⟨{ r.entryAt ⟨i, h.lt_size⟩ with selected := true }, ?_, ?_, ?_⟩
  · rw [← r.marked_selectAt ⟨i, h.lt_size⟩, h.selectAt_eq]
  · have hsel := (h.selected i _ (List.getElem?_eq_getElem h.lt_size)).2 rfl
    have hmem := r.entryAt_mem ⟨i, h.lt_size⟩
    have heq : { r.entryAt ⟨i, h.lt_size⟩ with selected := true } = r.entryAt ⟨i, h.lt_size⟩ := by
      rw [← hsel]
      rfl
    rwa [heq]
  · rw [h.item] at hi
    exact (Option.some.inj hi).symm

theorem Selects.toItem_eq (h : r.Selects i item) {s : Entry} (hs : r.selected? = some s) :
    s ∈ r.entries ∧ s.toItem = item := by
  obtain ⟨d, hmarked, hd, hitem⟩ := h.exists_marked
  rw [selected?_eq_head?, hmarked] at hs
  cases hs
  exact ⟨hd, hitem⟩

theorem Selects.append (h : r.Selects i item) {es : List Entry}
    (hes : ∀ e ∈ es, e.selected = false) : (r.append es).Selects i item where
  item := by
    rw [items_append, List.getElem?_append_left (by rw [length_items]; exact h.lt_size), h.item]
  selected := by
    intro j e hj
    rcases Nat.lt_or_ge j r.size with hlt | hge
    · exact h.selected j e (by rwa [Roster.append, List.getElem?_append_left hlt] at hj)
    · have he : e ∈ es := by
        rw [Roster.append, List.getElem?_append_right hge] at hj
        exact List.mem_of_getElem? hj
      have hi := h.lt_size
      rw [hes e he]
      exact ⟨fun hf => absurd hf Bool.false_ne_true, fun hji => by omega⟩

theorem Selects.pushAll (h : r.Selects i item) (is : List Item) : (r.pushAll is).Selects i item :=
  h.append fun _ he => Entry.selected_of_mem_ofItems he

theorem selects_selectAt (i : Fin r.size) : (r.selectAt i).Selects i (r.entryAt i).toItem where
  item := by
    rw [items_selectAt]
    exact r.getElem?_items i
  selected := by
    intro j e hj
    simp only [selectAt, List.getElem?_mapIdx, Option.map_eq_some_iff] at hj
    obtain ⟨d, -, rfl⟩ := hj
    exact decide_eq_true_iff

theorem selects_pushSelected (item : Item) :
    (r.pushSelected item).Selects r.size item.canonical := by
  have h : (r.push item).entryAt ⟨r.size, by rw [size_push]; exact Nat.lt_succ_self _⟩ =
      .ofItem item r.size := by
    simp [entryAt, push, Roster.append, size]
  have hsel := selects_selectAt (r := r.push item)
    ⟨r.size, by rw [size_push]; exact Nat.lt_succ_self _⟩
  rwa [h] at hsel

/-! ### Searching the items -/

theorem findIdx_items {p : Item → Bool} {i : Fin r.size} (hi : p (r.entryAt i).toItem)
    (hj : ∀ j < i, ¬ p (r.entryAt j).toItem) :
    r.items.findIdx p = i ∧ r.items.find? p = some (r.entryAt i).toItem := by
  have hlen : (i : Nat) < r.items.length := by
    rw [length_items]
    exact i.isLt
  have hget (j : Fin r.size) (h : (j : Nat) < r.items.length) :
      r.items[(j : Nat)] = (r.entryAt j).toItem :=
    (List.getElem?_eq_some_iff.1 (r.getElem?_items j)).2
  have hbefore : ∀ (j : Nat) (hji : j < i), p r.items[j] = false := by
    intro j hji
    have hsize : j < r.size := Nat.lt_trans hji i.isLt
    rw [hget ⟨j, hsize⟩]
    exact Bool.eq_false_iff.2 (hj ⟨j, hsize⟩ hji)
  constructor
  · exact (List.findIdx_eq hlen).2 ⟨by rw [hget i]; exact hi, hbefore⟩
  · refine List.find?_eq_some_iff_getElem.2 ⟨hi, i, hlen, hget i hlen, fun j hji => ?_⟩
    rw [hbefore j hji]
    rfl

theorem addresses_eq_keyed {kind : Kind} (h : kind.carriesValue) (value : String) (e : Entry) :
    e.addresses kind value = e.toItem.keyed kind.key (kind.key.canonical value) := by
  rw [Bool.eq_iff_iff, Entry.addresses_iff_samePort h value none, Item.keyed_iff]
  rfl

/-- **Reconciling selects the first item for the port, or else the placeholder behind the list.** -/
theorem selects_reconcileLabelled {kind : Kind} (h : kind.carriesValue) (value : String)
    (label : Option String) :
    (r.reconcileLabelled kind value label).1.Selects
      (r.items.findIdx (Item.keyed kind.key (kind.key.canonical value)))
      ((r.items.find? (Item.keyed kind.key (kind.key.canonical value))).getD
        (placeholder kind value label)) := by
  rcases reconcileLabelled_cases (r := r) kind value label with ⟨i, hi, hj, hrec⟩ | ⟨hn, hrec⟩
  · obtain ⟨hidx, hfind⟩ := findIdx_items (r := r)
      (p := Item.keyed kind.key (kind.key.canonical value)) (i := i)
      (by rwa [addresses_eq_keyed h] at hi)
      fun j hji => by
        have := hj j hji
        rwa [addresses_eq_keyed h] at this
    rw [hrec, hidx, hfind]
    exact selects_selectAt i
  · have hnone : ∀ i ∈ r.items, i.keyed kind.key (kind.key.canonical value) = false := by
      intro i hi
      obtain ⟨e, he, rfl⟩ := List.mem_map.1 hi
      have := hn e he
      rw [addresses_eq_keyed h] at this
      exact Bool.eq_false_iff.2 this
    have hfind : r.items.find? (Item.keyed kind.key (kind.key.canonical value)) = none :=
      List.find?_eq_none.2 fun i hi => by simp [hnone i hi]
    rw [hrec, List.findIdx_eq_length.2 hnone, hfind, length_items]
    have hsel := selects_pushSelected (r := r) (placeholder kind value label)
    rwa [canonical_placeholder] at hsel

/-! ### Selecting a line -/

theorem savedLine?_append_cons (r : Roster) {saved : SavedPort} (hk : saved.kind = .ioioUart)
    {before after : List Discovery} {d : Discovery} (hd : d.value = saved.uartText)
    (hafter : ∀ d' ∈ after, d'.value ≠ saved.uartText) :
    r.savedLine? (before ++ d :: after) saved =
      some (.encode d.kind (r.size + before.length)) := by
  have hzip (found : List Discovery) : (r.newEntries (found.map Discovery.item)).zip found =
      found.mapIdx fun i d => (Entry.ofItem d.item (r.size + i), d) := by
    refine List.ext_getElem (by simp [newEntries, Entry.length_ofItems]) fun i _ _ => ?_
    simp [newEntries, Entry.ofItems]
  have hnone : (after.mapIdx fun i d => (Entry.ofItem d.item (r.size + (i + 1 + before.length)), d)
      ).reverse.find? (fun p => p.2.value == saved.uartText) = none := by
    refine List.find?_eq_none.2 fun p hp => ?_
    obtain ⟨i, hi, rfl⟩ := List.mem_mapIdx.1 (List.mem_reverse.1 hp)
    simpa using hafter _ (List.getElem_mem hi)
  unfold savedLine?
  rw [if_pos hk, hzip, List.mapIdx_append, List.mapIdx_cons, List.reverse_append,
    List.reverse_cons, List.append_assoc, List.find?_append, hnone, Option.none_or,
    List.singleton_append, List.find?_cons_of_pos (by simpa using hd)]
  simp [Entry.ofItem, Discovery.item]

/-- For the last line with the saved number, the first entry with its identifier is selected. -/
theorem addUart_eq_selectAt {saved : SavedPort} (hk : saved.kind = .ioioUart)
    {found before after : List Discovery} {d : Discovery} (hfound : found = before ++ d :: after)
    (hd : d.value = saved.uartText) (hafter : ∀ d' ∈ after, d'.value ≠ saved.uartText)
    {i : Fin (r.pushAll (found.map Discovery.item)).size}
    (hi : (r.pushAll (found.map Discovery.item)).indexOf?
      (.encode d.kind (r.size + before.length)) = some i) :
    r.addUart found saved = (r.pushAll (found.map Discovery.item)).selectAt i := by
  subst hfound
  let listed := r.pushAll ((before ++ d :: after).map Discovery.item)
  unfold addUart
  rw [r.savedLine?_append_cons hk hd hafter]
  show (listed.select _).1 = _
  rw [select, hi]
  rfl

theorem selects_addUart {saved : SavedPort} (hk : saved.kind = .ioioUart)
    {before after : List Discovery} {d : Discovery} (hd : d.value = saved.uartText)
    (hafter : ∀ d' ∈ after, d'.value ≠ saved.uartText)
    (hr : (r.pushAll ((before ++ d :: after).map Discovery.item)).Coherent)
    (hs : (r.pushAll ((before ++ d :: after).map Discovery.item)).size ≤ serialBound) :
    (r.addUart (before ++ d :: after) saved).Selects (r.size + before.length) d.shown := by
  let listed := r.pushAll ((before ++ d :: after).map Discovery.item)
  have hi : r.size + before.length < listed.size := by
    simp only [listed, size_pushAll, List.length_map, List.length_append, List.length_cons]
    omega
  have hentry : listed.entryAt ⟨_, hi⟩ = .ofItem d.item (r.size + before.length) := by
    simp [listed, entryAt, pushAll, Roster.append, newEntries, Entry.ofItems, size]
  have hindex : listed.indexOf? (.encode d.kind (r.size + before.length)) = some ⟨_, hi⟩ := by
    have h := hr.indexOf?_entryAt hs ⟨_, hi⟩
    rw [hentry] at h
    exact h
  have hsel := selects_selectAt (r := listed) ⟨_, hi⟩
  rw [hentry] at hsel
  rw [addUart_eq_selectAt hk rfl hd hafter hindex]
  exact hsel

end Roster

end PortRoster
