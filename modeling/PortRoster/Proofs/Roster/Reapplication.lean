import PortRoster.Proofs.Roster.Atomicity
import PortRoster.Proofs.Roster.Rearrangement
import PortRoster.Proofs.Roster.Resaving
import PortRoster.Proofs.Text.Run

/-! # Applying a saved port afterwards

A saved port can be applied to a list in two ways: a build settles it stage by stage, in the part of
the list that is there at that stage, and a call settles it in the whole list. Both select the same
port. The parts of the list that only the call looks at hold nothing for the port, with one
exception that is left out here: an adapter that has the path of a saved serial port. A placeholder
stands in its gap after a build, and at the end after a call.

* `find?_given`: a search in the whole list finds what a search up to a family does.
* `selectSaved_of_gap?`: a saved port that may need a placeholder.
* `selectSaved_of_none`, `selectSaved_of_line`: a saved fixed kind, and a saved line.
* `selectSaved_build`: the call on a list that was built for a fixed kind, and the build. -/

namespace PortRoster

theorem Kind.cases_of_carriesValue {k : Kind} (h : k.carriesValue) :
    k = .serial ∨ k.usesMac ∨ k = .usbSerial ∨ k = .ioioUart := by
  cases k <;> revert h <;> decide

namespace Roster

variable {r r' : Roster} {i : Nat} {x : Item} {p : Entry → Bool} {q : Item → Bool}

/-! ### Rows -/

theorem Selects.rows_eq_append {front back : List Item} (h : r.Selects front.length x)
    (hitems : r.items = front ++ x :: back) :
    r.rows = front.map (·, false) ++ (x, true) :: back.map (·, false) := by
  have hmap (l : List Item) (n : Nat) (f : Nat → Nat) (hf : ∀ j, f j ≠ n) :
      (l.mapIdx fun j item => (item, decide (f j = n))) = l.map (·, false) := by
    refine List.ext_getElem (by simp) fun j _ _ => ?_
    simp [hf j]
  have hfront : (front.mapIdx fun j item => (item, decide (j = front.length))) =
      front.map (·, false) := by
    refine List.ext_getElem (by simp) fun j hj _ => ?_
    have hj' : j < front.length := by rwa [List.length_mapIdx] at hj
    simp [Nat.ne_of_lt hj']
  rw [h.rows_eq, hitems, List.mapIdx_append, List.mapIdx_cons, hfront,
    hmap back front.length (fun j => j + 1 + front.length) fun j => by omega]
  simp

/-- The lists show the same, but for the order, and the same item is selected in both. -/
structure Alike (r r' : Roster) : Prop where
  marked : ∃ s s', r.marked = [s] ∧ r'.marked = [s'] ∧ s.toItem = s'.toItem
  rows : r.rows.Perm r'.rows

theorem alike_of_selects {front back : List Item} (h : r.Selects (front ++ back).length x)
    (hitems : r.items = front ++ back ++ [x]) (h' : r'.Selects front.length x)
    (hitems' : r'.items = front ++ x :: back) : r.Alike r' := by
  obtain ⟨s, hs, -, hsx⟩ := h.exists_marked
  obtain ⟨s', hs', -, hsx'⟩ := h'.exists_marked
  refine ⟨⟨s, s', hs, hs', hsx.trans hsx'.symm⟩, ?_⟩
  rw [h.rows_eq_append hitems, h'.rows_eq_append hitems', List.map_append]
  exact (List.perm_append_singleton _ _).trans List.perm_middle.symm

theorem alike_of_items_eq (h : r.Selects i x) (h' : r'.Selects i x) (hitems : r.items = r'.items) :
    r.Alike r' := by
  obtain ⟨s, hs, -, hsx⟩ := h.exists_marked
  obtain ⟨s', hs', -, hsx'⟩ := h'.exists_marked
  refine ⟨⟨s, s', hs, hs', hsx.trans hsx'.symm⟩, ?_⟩
  rw [h.rows_eq, h'.rows_eq, hitems]

/-! ### Searching in a list -/

theorem exists_selectFirst_of_unique (hpq : ∀ e : Entry, p e = q e.toItem)
    (hx : r.items[i]? = some x) (hq : q x)
    (hunique : ∀ j y, r.items[j]? = some y → q y → j = i) :
    ∃ r' id, r.selectFirst p = (r', some id) ∧ r'.items = r.items ∧ r'.Selects i x := by
  rcases selectFirst_cases (r := r) p with ⟨j, hj, -, h⟩ | ⟨hn, -⟩
  · have hget := r.getElem?_items j
    have hji : (j : Nat) = i := hunique j _ hget (by rwa [← hpq])
    have hitem : (r.entryAt j).toItem = x := by
      rw [hji, hx] at hget
      exact (Option.some.inj hget).symm
    refine ⟨_, _, h, r.items_selectAt j, ?_⟩
    rw [← hji, ← hitem]
    exact selects_selectAt j
  · obtain ⟨e, he, hitem⟩ := List.mem_map.1 (List.mem_of_getElem? hx)
    exact absurd (by rw [hpq, hitem]; exact hq) (hn e he)

theorem selectFirst_eq_none (hpq : ∀ e : Entry, p e = q e.toItem)
    (hno : ∀ y ∈ r.items, ¬ q y) : r.selectFirst p = (r, none) := by
  rcases selectFirst_cases (r := r) p with ⟨j, hj, -, -⟩ | ⟨-, h⟩
  · rw [hpq] at hj
    exact absurd hj (hno _ (List.mem_map_of_mem (r.entryAt_mem j)))
  · exact h

end Roster

namespace Builder

open Roster

variable {b : Builder} {c d : SavedPort}

theorem items_build_of_none (b : Builder) (h : d.kind.key = .none) : (b.build d).items = b.given :=
  b.items_build_of_gap?_eq_none (b.gap?_of_none h)

/-- Applying the saved port to the list and building for it select alike, or neither selects
anything and the list stays as it is. -/
def AppliesAlike (b : Builder) (c : SavedPort) (r : Roster) : Prop :=
  (r.selectSaved c = (r, none) ∧ (b.build c).marked = []) ∨
    ∃ r' id, r.selectSaved c = (r', some id) ∧ r'.Alike (b.build c)

/-! ### Ports that may need a placeholder -/

/-- **A search in the whole list finds what a search up to a family does**, in the same place, if
there is no hit behind the family but where there is one before. -/
theorem find?_given (b : Builder) {family : Family} {q : Item → Bool}
    (hbehind : (b.upTo family).find? q = none → ∀ i ∈ b.behind family, ¬ q i) :
    b.given.find? q = (b.upTo family).find? q ∧
      ∀ i, (b.upTo family).find? q = some i →
        b.given.findIdx q = (b.upTo family).findIdx q := by
  rw [← b.upTo_append_behind family, List.find?_append]
  cases hfind : (b.upTo family).find? q with
  | some i =>
    have hlt : (b.upTo family).findIdx q < (b.upTo family).length :=
      List.findIdx_lt_length_of_exists
        ⟨i, List.mem_of_find?_eq_some hfind, List.find?_some hfind⟩
    exact ⟨rfl, fun _ _ => by rw [List.findIdx_append, if_pos hlt]⟩
  | none =>
    exact ⟨List.find?_eq_none.2 (hbehind hfind), nofun⟩

/-- **Reconciling a port with a gap, in the whole list, is as good as the build**, if there is no hit
behind the gap but where there is one before, and no name is known for the port. -/
theorem alike_of_gap? {r : Roster} (hitems : r.items = b.given) {family : Family} {kind : Kind}
    {value : String} {label : Option String}
    (hgap : b.gap? c = some (family, placeholder kind value label)) (hk : kind.carriesValue)
    (hmissing : (b.upTo family).find? (Item.keyed kind.key (kind.key.canonical value)) = none →
      label = none ∧
        ∀ i ∈ b.behind family, ¬ Item.keyed kind.key (kind.key.canonical value) i) :
    (r.reconcile kind value).1.Alike (b.build c) := by
  have hsel := selects_reconcileLabelled (r := r) hk value none
  have hlist := r.items_reconcileLabelled hk value none
  have hsel' := b.selects_build_of_gap? hgap
  have hlist' := b.items_build_of_gap? hgap
  obtain ⟨hfind, hidx⟩ := b.find?_given fun hnone => (hmissing hnone).2
  rw [hitems] at hsel hlist
  rw [hfind] at hsel
  cases hup : (b.upTo family).find? (Item.keyed kind.key (kind.key.canonical value)) with
  | some x =>
    -- nothing is added, and both searches stop at one place
    have hgiven := hfind.trans hup
    rw [Item.missingFrom_of_find?_eq_some hgiven, List.append_nil] at hlist
    rw [Item.missingFrom_of_find?_eq_some hup, List.append_nil, upTo_append_behind] at hlist'
    rw [hup, hidx x hup] at hsel
    simp only [placeholder, hup] at hsel'
    exact alike_of_items_eq hsel hsel' (hlist.trans hlist'.symm)
  | none =>
    -- the placeholder is one and the same, behind the family or behind everything
    obtain ⟨rfl, -⟩ := hmissing hup
    have hgiven := hfind.trans hup
    rw [Item.missingFrom_of_find?_eq_none hgiven, ← b.upTo_append_behind family] at hlist
    rw [Item.missingFrom_of_find?_eq_none hup, List.append_assoc] at hlist'
    rw [hup, Item.findIdx_of_find?_eq_none hgiven, ← b.upTo_append_behind family] at hsel
    simp only [placeholder, hup] at hsel'
    rw [Item.findIdx_of_find?_eq_none hup] at hsel'
    exact alike_of_selects hsel hlist hsel' hlist'

section Ordinary
variable (hb : b.Ordinary)
include hb

theorem Ordinary.kind_of_mem_uartItems {i : Item} (h : i ∈ b.uartItems) : i.kind = .ioioUart := by
  obtain ⟨d, hd, rfl⟩ := List.mem_map.1 h
  exact hb.uart d hd

theorem Ordinary.key_of_mem_behind_bluetooth {i : Item} (h : i ∈ b.behind .bluetooth) :
    i.kind.key ≠ .bluetoothMac := by
  rcases List.mem_append.1 h with h | h
  · rw [hb.kind_of_mem_usbItems h]
    decide
  · rw [hb.kind_of_mem_uartItems h]
    decide

theorem Ordinary.mem_usbItems_of_behind_serial {i : Item} (h : i ∈ b.behind .serial)
    (hk : i.kind.key = .path) : i ∈ b.usbItems := by
  rcases List.mem_append.1 h with h | h
  · rcases List.mem_append.1 h with h | h
    · rw [hb.key_of_mem_bluetoothItems h] at hk
      cases hk
    · exact h
  · rw [hb.kind_of_mem_uartItems h] at hk
    cases hk

/-- A saved serial port is found among the serial ports or not at all, unless an adapter has its
path. -/
theorem Ordinary.not_keyed_behind_serial {path : String}
    (hpath : (∃ x ∈ b.sources.usbSerial.found, x.value = path) →
      ∃ x ∈ b.sources.serial.found, x.value = path)
    (hnone : (b.upTo .serial).find? (Item.keyed .path path) = none) {i : Item}
    (hi : i ∈ b.behind .serial) : ¬ Item.keyed .path path i := by
  intro hkeyed
  obtain ⟨hkey, hvalue⟩ := Item.keyed_iff.1 hkeyed
  obtain ⟨x, hx, rfl⟩ := List.mem_map.1 (hb.mem_usbItems_of_behind_serial hi hkey)
  have hxv : x.value = path := by
    have hcanon : x.kind.key.canonical x.value = path := hvalue
    rwa [hb.usbSerial x hx] at hcanon
  obtain ⟨y, hy, hyv⟩ := hpath ⟨x, hx, hxv⟩
  have hyk := hb.serial y hy
  refine List.find?_eq_none.1 hnone y.shown
    (List.mem_append_right _ (b.mem_serialItems.2 ⟨y, hy, rfl⟩)) (Item.keyed_iff.2 ?_)
  simp [Discovery.shown, hyk, Kind.key, ValueKey.canonical, hyv]

/-- **A saved port that may need a placeholder is selected afterwards as it is by the build.** -/
theorem Ordinary.selectSaved_of_gap? {r : Roster} (hitems : r.items = b.given)
    (hpath : c.kind = .serial → (∃ x ∈ b.sources.usbSerial.found, x.value = c.path) →
      ∃ x ∈ b.sources.serial.found, x.value = c.path)
    {family : Family} {p : Item} (hgap : b.gap? c = some (family, p)) : b.AppliesAlike c r := by
  obtain ⟨devices, hdevices⟩ := hb.bluetooth
  rcases b.gap?_cases hgap with ⟨hk, rfl, rfl⟩ | ⟨⟨hm, hv⟩, rfl, rfl⟩ | ⟨⟨hk, hv⟩, rfl, rfl⟩
  · have hcall : r.selectSaved c =
        ((r.reconcile .serial c.path).1, some (r.reconcile .serial c.path).2) := by
      simp [Roster.selectSaved, hk, Kind.key]
    refine .inr ⟨_, _, hcall, alike_of_gap? hitems hgap rfl fun hnone => ⟨rfl, fun i hi => ?_⟩⟩
    exact hb.not_keyed_behind_serial (hpath hk) hnone hi
  · have hkey := SavedPort.key_of_usesMac hm
    have hcall : r.selectSaved c = ((r.reconcile c.kind c.bluetoothMac).1,
        some (r.reconcile c.kind c.bluetoothMac).2) := by
      simp [Roster.selectSaved, hkey]
    have hc : c.kind.carriesValue := by simp [Kind.carriesValue, hkey]
    refine .inr ⟨_, _, hcall, alike_of_gap? hitems hgap hc fun hnone => ?_⟩
    rw [hkey] at hnone ⊢
    refine ⟨nameFor_eq_none_of_find? hdevices hnone, fun i hi hkeyed => ?_⟩
    exact hb.key_of_mem_behind_bluetooth hi (Item.keyed_iff.1 hkeyed).1
  · have hcall : r.selectSaved c =
        ((r.reconcile .usbSerial c.path).1, some (r.reconcile .usbSerial c.path).2) := by
      simp [Roster.selectSaved, hk, Kind.key]
    refine .inr ⟨_, _, hcall, alike_of_gap? hitems hgap rfl fun _ =>
      ⟨rfl, fun i hi hkeyed => ?_⟩⟩
    have hkey := (Item.keyed_iff.1 hkeyed).1
    rw [hb.kind_of_mem_uartItems hi] at hkey
    cases hkey

/-! ### Fixed kinds and lines -/

theorem Ordinary.getElem?_fixedItems_of_given {i : Nat} {x : Item} (h : b.given[i]? = some x)
    (hk : x.kind.key = .none) : b.fixedItems[i]? = some x := by
  have hgiven : b.given =
      b.fixedItems ++ (b.serialItems ++ (b.bluetoothItems ++ (b.usbItems ++ b.uartItems))) := by
    simp [given, upTo]
  rw [hgiven] at h
  rcases Nat.lt_or_ge i b.fixedItems.length with hlt | hge
  · rwa [List.getElem?_append_left hlt] at h
  · rw [List.getElem?_append_right hge] at h
    have hmem := List.mem_of_getElem? h
    simp only [List.mem_append] at hmem
    rcases hmem with hx | hx | hx | hx
    · rw [hb.kind_of_mem_serialItems hx] at hk
      cases hk
    · rw [hb.key_of_mem_bluetoothItems hx] at hk
      cases hk
    · rw [hb.kind_of_mem_usbItems hx] at hk
      cases hk
    · rw [hb.kind_of_mem_uartItems hx] at hk
      cases hk

/-- **A fixed kind is selected afterwards as it is by the build**, or in neither way. -/
theorem Ordinary.selectSaved_of_none {r : Roster} (hitems : r.items = b.given)
    (hk : c.kind.key = .none) : b.AppliesAlike c r := by
  have hcall : r.selectSaved c = r.selectFirst fun e => e.kind == c.kind := by
    simp [Roster.selectSaved, hk]
  unfold AppliesAlike
  rw [hcall]
  by_cases ho : b.table.offers c.kind
  · obtain ⟨i, s, hget, hs⟩ := KindTable.exists_get?_of_offers ho
    have hfixed := getElem?_fixedItems hget
    have hitem : r.items[i]? = some s.item := by
      rw [hitems, given, upTo]
      simp only [List.append_assoc]
      rw [List.getElem?_append_left (List.getElem?_eq_some_iff.1 hfixed).1, hfixed]
    obtain ⟨r', id, hsel, hlist, hmark⟩ := exists_selectFirst_of_unique
      (p := fun e => e.kind == c.kind) (q := fun x => x.kind == c.kind) (fun _ => rfl) hitem
      (beq_iff_eq.2 hs) fun j y hy hyk => by
        have hyk := eq_of_beq hyk
        rw [hitems] at hy
        exact b.position_eq_of_kind_eq (hb.getElem?_fixedItems_of_given hy (by rw [hyk, hk])) hfixed
          (hyk.trans hs.symm)
    refine .inr ⟨r', id, hsel, alike_of_items_eq hmark (b.selects_build_of_none hk hget hs) ?_⟩
    rw [hlist, hitems, b.items_build_of_none hk]
  · refine .inl ⟨selectFirst_eq_none (q := fun x => x.kind == c.kind) (fun _ => rfl) ?_,
      b.marked_build_of_not_offers hk ho⟩
    intro y hy hyk
    have hyk := eq_of_beq hyk
    rw [hitems] at hy
    obtain ⟨i, hi⟩ := List.getElem?_of_mem hy
    obtain ⟨s, hs, rfl⟩ := List.mem_map.1
      (List.mem_of_getElem? (hb.getElem?_fixedItems_of_given hi (by rw [hyk, hk])))
    exact ho (List.any_eq_true.2 ⟨s, hs, beq_iff_eq.2 hyk⟩)

theorem Ordinary.getElem?_uartItems_of_given {i : Nat} {x : Item} (h : b.given[i]? = some x)
    (hk : x.kind = .ioioUart) :
    (b.upTo .usbSerial).length ≤ i ∧
      b.uartItems[i - (b.upTo .usbSerial).length]? = some x := by
  have hgiven : b.given = b.upTo .usbSerial ++ b.uartItems := rfl
  rw [hgiven] at h
  rcases Nat.lt_or_ge i (b.upTo .usbSerial).length with hlt | hge
  · rw [List.getElem?_append_left hlt] at h
    have hmem := List.mem_of_getElem? h
    simp only [upTo, List.mem_append] at hmem
    rcases hmem with ((hx | hx) | hx) | hx
    · have hnone := key_of_mem_fixedItems hx
      rw [hk] at hnone
      cases hnone
    · rw [hb.kind_of_mem_serialItems hx] at hk
      cases hk
    · have hmac := hb.key_of_mem_bluetoothItems hx
      rw [hk] at hmac
      cases hmac
    · rw [hb.kind_of_mem_usbItems hx] at hk
      cases hk
  · rw [List.getElem?_append_right hge] at h
    exact ⟨hge, h⟩

theorem Ordinary.position_eq_of_line (hlines : (b.uartItems.map Item.value).Nodup) {i j : Nat}
    {x y : Item} (hx : b.given[i]? = some x) (hy : b.given[j]? = some y)
    (hxk : x.kind = .ioioUart) (hyk : y.kind = .ioioUart) (h : x.value = y.value) : i = j := by
  obtain ⟨hi, hx⟩ := hb.getElem?_uartItems_of_given hx hxk
  obtain ⟨hj, hy⟩ := hb.getElem?_uartItems_of_given hy hyk
  have hlt : i - (b.upTo .usbSerial).length < (b.uartItems.map Item.value).length := by
    rw [List.length_map]
    exact (List.getElem?_eq_some_iff.1 hx).1
  have heq : i - (b.upTo .usbSerial).length = j - (b.upTo .usbSerial).length := by
    refine (List.getElem?_inj hlt hlines).1 ?_
    rw [List.getElem?_map, List.getElem?_map, hx, hy]
    exact congrArg some h
  omega

/-- **A line is selected afterwards as it is by the build**, or in neither way, if no two lines have
one number. -/
theorem Ordinary.selectSaved_of_line {r : Roster} (hitems : r.items = b.given)
    (hlines : (b.uartItems.map Item.value).Nodup) (hk : c.kind = .ioioUart)
    (hs : (b.build c).size ≤ serialBound) : b.AppliesAlike c r := by
  have hcall : r.selectSaved c =
      r.selectFirst fun e => e.kind == .ioioUart && e.value == c.uartText := by
    simp [Roster.selectSaved, hk, Kind.key]
  have hq (x : Item) : (x.kind == .ioioUart && x.value == c.uartText) = true ↔
      x.kind = .ioioUart ∧ x.value = c.uartText := by simp
  unfold AppliesAlike
  rw [hcall]
  by_cases hex : ∃ d ∈ b.sources.uart.found, d.value = c.uartText
  · obtain ⟨before, d, after, hfound, hd, hafter⟩ := exists_last_line hex
    have hbuild := b.selects_build_of_line hk hs hfound hd hafter
    have hlist' := b.items_build_of_gap?_eq_none (b.gap?_of_line hk)
    have hdk : d.kind = .ioioUart := hb.uart d (by rw [hfound]; simp)
    have hvalue : d.shown.value = c.uartText := by
      simp [Discovery.shown, hdk, Kind.key, ValueKey.canonical, hd]
    have hitem : r.items[(b.upTo .usbSerial).length + before.length]? = some d.shown := by
      have h := hbuild.item
      rwa [hlist', ← hitems] at h
    obtain ⟨r', id, hsel, hlist, hmark⟩ := exists_selectFirst_of_unique
      (p := fun e => e.kind == .ioioUart && e.value == c.uartText)
      (q := fun x => x.kind == .ioioUart && x.value == c.uartText) (fun _ => rfl) hitem
      ((hq _).2 ⟨hdk, hvalue⟩) fun j y hy hyq => by
        obtain ⟨hyk, hyv⟩ := (hq y).1 hyq
        rw [hitems] at hy hitem
        exact hb.position_eq_of_line hlines hy hitem hyk hdk (hyv.trans hvalue.symm)
    refine .inr ⟨r', id, hsel, alike_of_items_eq hmark hbuild ?_⟩
    rw [hlist, hitems, hlist']
  · refine .inl ⟨selectFirst_eq_none
      (q := fun x => x.kind == .ioioUart && x.value == c.uartText) (fun _ => rfl) ?_,
      b.marked_build_of_no_line hk hs hex⟩
    intro y hy hyq
    obtain ⟨hyk, hyv⟩ := (hq y).1 hyq
    rw [hitems] at hy
    obtain ⟨i, hi⟩ := List.getElem?_of_mem hy
    obtain ⟨d, hd, rfl⟩ :=
      List.mem_map.1 (List.mem_of_getElem? (hb.getElem?_uartItems_of_given hi hyk).2)
    refine hex ⟨d, hd, ?_⟩
    have hcanon : d.kind.key.canonical d.value = c.uartText := hyv
    rwa [hb.uart d hd] at hcanon

end Ordinary

/-! ### Both ways to apply a saved port -/

/-- The sources report serial ports, bonded devices, adapters and the lines of a board. -/
structure Equipped (b : Builder) : Prop where
  serial : ∀ d ∈ b.sources.serial.found, d.kind = .serial
  bluetooth : ∃ devices, b.sources.bluetooth = .bonded devices
  usbSerial : ∃ adapters, b.sources.usbSerial = .adapters adapters
  uart : ∃ count help, b.sources.uart = .uartLines count help

theorem Equipped.ordinary (hb : b.Equipped) : b.Ordinary where
  serial := hb.serial
  bluetooth := hb.bluetooth
  usbSerial := by
    obtain ⟨adapters, h⟩ := hb.usbSerial
    intro d hd
    rw [h] at hd
    obtain ⟨adapter, -, rfl⟩ := List.mem_map.1 hd
    rfl
  uart := by
    obtain ⟨count, help, h⟩ := hb.uart
    intro d hd
    rw [h] at hd
    obtain ⟨line, -, rfl⟩ := List.mem_map.1 hd
    rfl

theorem Equipped.nodup_uartItems (hb : b.Equipped) : (b.uartItems.map Item.value).Nodup := by
  obtain ⟨count, help, h⟩ := hb.uart
  have hvalues : b.uartItems.map Item.value = (List.range count).map Text.decimalText := by
    unfold uartItems
    rw [h, Source.found, Source.uartLines, List.map_map, List.map_map]
    exact List.map_congr_left fun line _ => rfl
  rw [hvalues]
  exact List.nodup_range.map Text.decimalText_injective

/-- **Applying a saved port afterwards agrees with building for it.** The list was built for a fixed
kind, on a host with any table, serial ports, bonded devices, adapters and lines. The call fails if
the build for the saved port selects nothing, and then the list keeps its own selection. If it
succeeds, the same item is selected as in the build, and both lists show the same, but for the order.
The saved address or id must not be empty, and the path of a saved serial port must not be known
from the adapters alone. -/
theorem selectSaved_build {b : Builder} (hb : b.Equipped) {c d : SavedPort}
    (hd : d.kind.key = .none) (hmac : c.usesMac → c.bluetoothMac ≠ "")
    (husb : c.kind = .usbSerial → c.path ≠ "")
    (hpath : c.kind = .serial → (∃ x ∈ b.sources.usbSerial.found, x.value = c.path) →
      ∃ x ∈ b.sources.serial.found, x.value = c.path)
    (hs : (b.build c).size ≤ 65536) :
    (((b.build d).selectSaved c).2 = none ↔ (b.build c).marked = []) ∧
    ((b.build c).marked = [] → ((b.build d).selectSaved c).1 = b.build d) ∧
    ∀ r id, (b.build d).selectSaved c = (r, some id) → r.Alike (b.build c) := by
  have hitems := b.items_build_of_none hd
  have hboth : b.AppliesAlike c (b.build d) := by
    rcases b.settled_cases c with ⟨family, p, hgap⟩ | hk | hk | ⟨hgap, hc, hline⟩
    · exact hb.ordinary.selectSaved_of_gap? hitems hpath hgap
    · exact hb.ordinary.selectSaved_of_none hitems hk
    · exact hb.ordinary.selectSaved_of_line hitems hb.nodup_uartItems hk hs
    · -- an empty address or id
      obtain ⟨hserial, hm, hu⟩ := b.gap?_eq_none_iff.1 hgap
      rcases Kind.cases_of_carriesValue hc with hk | hk | hk | hk
      · exact absurd hk hserial
      · exact absurd ⟨hk, hmac hk⟩ hm
      · exact absurd ⟨hk, husb hk⟩ hu
      · exact absurd hk hline
  rcases hboth with ⟨hcall, hnil⟩ | ⟨r, id, hcall, halike⟩
  · rw [hcall]
    exact ⟨iff_of_true rfl hnil, fun _ => rfl, fun _ _ h => nomatch congrArg Prod.snd h⟩
  · have hne : (b.build c).marked ≠ [] := by
      obtain ⟨-, s', -, hs', -⟩ := halike.marked
      rw [hs']
      exact List.cons_ne_nil _ _
    rw [hcall]
    refine ⟨iff_of_false nofun hne, fun hnil => absurd hnil hne, fun r' id' h => ?_⟩
    cases h
    exact halike

/-- The workbench, with an adapter. -/
def dockedWorkbench : Builder :=
  { workbench with
    sources := { workbench.sources with usbSerial := .adapters [⟨"1-1", "Receiver"⟩] } }

/-- A serial port that is not there is listed behind the serial ports by a build, and behind all
ports by a call. -/
theorem selectSaved_build_docked :
    ∃ r id, (dockedWorkbench.build .unset).selectSaved (.serial "/dev/ttyS0") = (r, some id) ∧
      r.Alike (dockedWorkbench.build (.serial "/dev/ttyS0")) := by
  have hb : dockedWorkbench.Equipped := ⟨by decide, ⟨_, rfl⟩, ⟨_, rfl⟩, ⟨2, [], rfl⟩⟩
  have hsize : (dockedWorkbench.build (.serial "/dev/ttyS0")).size ≤
      dockedWorkbench.table.size + 2 + 1 + 1 + 2 + 1 := dockedWorkbench.size_build_le _
  have htable := dockedWorkbench.table.size_le
  obtain ⟨-, -, halike⟩ := selectSaved_build hb (c := .serial "/dev/ttyS0") (d := .unset) rfl
    (by decide) (by decide) (by decide) (by omega)
  exact ⟨_, _, rfl, halike _ _ rfl⟩

end Builder

end PortRoster
