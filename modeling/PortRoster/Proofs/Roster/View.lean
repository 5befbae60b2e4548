import Mathlib.Logic.Relation
import PortRoster.Roster.Operation

/-! # Views of a roster

A roster is read through three lists: its `items`, its entries without their marks (`unmarked`), and
the entries that are `marked` as selected. Everything that happens to a roster is adding new entries
or moving the mark, and here is what these two do to each view; later proofs do not look into the
list of entries again.

* `items_pushAll`: new items stand at the end, with their values in canonical spelling.
* `marked_selectAt`: selecting a position leaves exactly one mark. -/

namespace PortRoster

/-- The item with its value in canonical spelling, as an entry keeps it. -/
def Item.canonical (i : Item) : Item := { i with value := i.kind.key.canonical i.value }

/-- The items are for one port: what identifies them is the same, and so is the value. -/
def Item.SamePort (i j : Item) : Prop := i.kind.key = j.kind.key ∧ i.value = j.value

instance : DecidableRel Item.SamePort := fun i j =>
  inferInstanceAs (Decidable (i.kind.key = j.kind.key ∧ i.value = j.value))

namespace Entry

/-- The entry without its mark. -/
def unmarked (e : Entry) : Entry := { e with selected := false }

@[simp]
theorem unmarked_ofItem (item : Item) (position : Nat) :
    (ofItem item position).unmarked = ofItem item position := rfl

@[simp]
theorem toItem_ofItem (item : Item) (position : Nat) :
    (ofItem item position).toItem = item.canonical := rfl

theorem map_toItem_ofItems (start : Nat) (items : List Item) :
    (ofItems start items).map toItem = items.map Item.canonical := by
  unfold ofItems
  refine List.ext_getElem (by simp) fun i _ _ => ?_
  simp

theorem map_unmarked_ofItems (start : Nat) (items : List Item) :
    (ofItems start items).map unmarked = ofItems start items := by
  unfold ofItems
  refine List.ext_getElem (by simp) fun i _ _ => ?_
  simp

theorem selected_of_mem_ofItems {start : Nat} {items : List Item} {e : Entry}
    (h : e ∈ ofItems start items) : e.selected = false := by
  obtain ⟨i, _, rfl⟩ := List.mem_mapIdx.1 h
  rfl

theorem addresses_iff_samePort {kind : Kind} (h : kind.carriesValue) (value : String)
    (label : Option String) (e : Entry) :
    e.addresses kind value ↔ e.toItem.SamePort (placeholder kind value label) := by
  unfold Kind.carriesValue at h
  unfold addresses Item.SamePort placeholder
  split
  · next hk => rw [hk] at h; exact absurd h (by decide)
  · simp

theorem addresses_of_key_none {kind : Kind} (h : kind.key = .none) (value : String) (e : Entry) :
    e.addresses kind value ↔ e.kind = kind := by
  simp [addresses, h]

theorem addresses_canonical (kind : Kind) (value : String) (e : Entry) :
    e.addresses kind (kind.key.canonical value) = e.addresses kind value := by
  have h := kind.key.canonical_canonical value
  unfold addresses
  split
  · rfl
  · rw [h]

end Entry

namespace Roster

/-- The items of the entries. -/
def items (r : Roster) : List Item := r.entries.map Entry.toItem

/-- The entries without their marks. -/
def unmarked (r : Roster) : List Entry := r.entries.map Entry.unmarked

/-- The entries that are marked as selected. -/
def marked (r : Roster) : List Entry := r.entries.filter (·.selected)

variable (r : Roster)

theorem length_items : r.items.length = r.size := by simp [items, size]

theorem length_unmarked : r.unmarked.length = r.size := by simp [unmarked, size]

theorem entryAt_mem (i : Fin r.size) : r.entryAt i ∈ r.entries := List.get_mem _ _

variable {r} in
theorem mem_unmarked {e : Entry} (h : e ∈ r.entries) : e.unmarked ∈ r.unmarked :=
  List.mem_map_of_mem h

theorem map_toItem_unmarked : r.unmarked.map Entry.toItem = r.items := by
  rw [unmarked, List.map_map]
  rfl

theorem selected?_eq_head? : r.selected? = r.marked.head? := by
  simp [selected?, marked, List.head?_filter]

/-! ### Adding entries -/

@[simp]
theorem items_append (es : List Entry) :
    (r.append es).items = r.items ++ es.map Entry.toItem := by simp [items, append]

@[simp]
theorem unmarked_append (es : List Entry) :
    (r.append es).unmarked = r.unmarked ++ es.map Entry.unmarked := by simp [unmarked, append]

theorem marked_append {es : List Entry} (h : ∀ e ∈ es, e.selected = false) :
    (r.append es).marked = r.marked := by
  have : es.filter (·.selected) = [] := by simpa [List.filter_eq_nil_iff] using h
  simp [marked, append, this]

@[simp]
theorem items_pushAll (is : List Item) :
    (r.pushAll is).items = r.items ++ is.map Item.canonical := by
  rw [pushAll, items_append, newEntries, Entry.map_toItem_ofItems]

@[simp]
theorem marked_pushAll (is : List Item) : (r.pushAll is).marked = r.marked :=
  r.marked_append fun _ h => Entry.selected_of_mem_ofItems h

theorem push_eq_pushAll (item : Item) : r.push item = r.pushAll [item] := by
  simp [push, pushAll, newEntries, Entry.ofItems]

/-! ### Moving the mark -/

@[simp]
theorem items_selectAt (i : Fin r.size) : (r.selectAt i).items = r.items := by
  unfold items selectAt
  refine List.ext_getElem (by simp) fun j _ _ => ?_
  simp

@[simp]
theorem unmarked_selectAt (i : Fin r.size) : (r.selectAt i).unmarked = r.unmarked := by
  unfold unmarked selectAt
  refine List.ext_getElem (by simp) fun j _ _ => ?_
  simp [Entry.unmarked]

/-- In a list where only position `i` is marked, the marked entries are the one at `i`. -/
theorem filter_selected_mapIdx : ∀ (es : List Entry) (i : Nat) (h : i < es.length),
    (es.mapIdx fun j e => { e with selected := decide (j = i) : Entry }).filter (·.selected) =
      [{ es[i] with selected := true }]
  | e :: es, 0, _ => by
    rw [List.mapIdx_cons, List.filter_cons_of_pos (by simp)]
    have : (es.mapIdx fun j e => { e with selected := decide (j + 1 = 0) : Entry }).filter
        (·.selected) = [] := by
      rw [List.filter_eq_nil_iff]
      intro d hd
      obtain ⟨j, _, rfl⟩ := List.mem_mapIdx.1 hd
      simp
    rw [this]
    rfl
  | e :: es, i + 1, h => by
    rw [List.mapIdx_cons, List.filter_cons_of_neg (by simp)]
    have ih := filter_selected_mapIdx es i (Nat.lt_of_succ_lt_succ h)
    simpa using ih

/-- **Selecting a position leaves exactly one mark.** -/
theorem marked_selectAt (i : Fin r.size) :
    (r.selectAt i).marked = [{ r.entryAt i with selected := true }] :=
  filter_selected_mapIdx r.entries i i.isLt

theorem marked_pushSelected (item : Item) :
    (r.pushSelected item).marked = [{ Entry.ofItem item r.size with selected := true }] := by
  rw [pushSelected, marked_selectAt]
  simp [entryAt, push, append, size]

@[simp]
theorem items_pushSelected (item : Item) :
    (r.pushSelected item).items = r.items ++ [item.canonical] := by
  rw [pushSelected, items_selectAt, push_eq_pushAll, items_pushAll]
  rfl

@[simp]
theorem unmarked_pushSelected (item : Item) :
    (r.pushSelected item).unmarked = r.unmarked ++ [Entry.ofItem item r.size] := by
  rw [pushSelected, unmarked_selectAt, push, unmarked_append]
  rfl

end Roster

end PortRoster
