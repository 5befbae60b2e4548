import PortRoster.Proofs.Roster.Selection

/-! # When two builds agree

Two builds of one host differ at most in the placeholder and in the mark: the entries without their
marks depend on the saved port only through the gaps. So two saved ports with the same gaps whose
builds select the same position have the same roster, whatever else is saved.

* `Change.unmarked_eq`: what a call adds, read off the items.
* `unmarked_build_congr`: with the same gaps, the builds agree but for the mark.
* `build_eq_of_selects`: with the same gaps and the same position, the builds agree.
* `build_eq_of_gap?`, `build_eq_of_found`: the same for saved ports that are settled by a search.
* `build_congr`: a build reads the kind and the field in use. -/

namespace PortRoster

namespace Roster

variable {r r' s s' : Roster}

/-! ### Entries without their marks -/

/-- **What a call adds, read off the items**: the entries for the items that are listed behind the
old ones. -/
theorem Change.unmarked_eq (h : Change r s) :
    s.unmarked = r.unmarked ++ r.newEntries (s.items.drop r.size) := by
  have hnil : r.items.drop r.size = [] := by rw [← length_items, List.drop_length]
  cases h with
  | same => rw [hnil]; exact (List.append_nil _).symm
  | mark i => rw [unmarked_selectAt, items_selectAt, hnil]; exact (List.append_nil _).symm
  | add kind value label h =>
    have hdrop : (r.items ++ [placeholder kind value label]).drop r.size =
        [placeholder kind value label] := by
      rw [← length_items, List.drop_left]
    rw [unmarked_pushSelected, items_pushSelected, canonical_placeholder, hdrop]
    rfl

theorem size_eq_of_unmarked_eq (h : r.unmarked = r'.unmarked) : r.size = r'.size := by
  rw [← length_unmarked, h, length_unmarked]

theorem unmarked_eq_of_change (hs : Change r s) (hs' : Change r' s')
    (h : r.unmarked = r'.unmarked) (hitems : s.items = s'.items) : s.unmarked = s'.unmarked := by
  rw [hs.unmarked_eq, hs'.unmarked_eq, h, hitems, newEntries, newEntries,
    size_eq_of_unmarked_eq h]

theorem unmarked_pushAll_congr (h : r.unmarked = r'.unmarked) (items : List Item) :
    (r.pushAll items).unmarked = (r'.pushAll items).unmarked := by
  rw [pushAll, pushAll, unmarked_append, unmarked_append, h, newEntries, newEntries,
    size_eq_of_unmarked_eq h]

theorem unmarked_addSerial_congr (h : r.unmarked = r'.unmarked) (found : List Discovery) :
    (r.addSerial found).unmarked = (r'.addSerial found).unmarked := by
  rw [addSerial, addSerial, unmarked_append, unmarked_append, h, newEntries, newEntries,
    size_eq_of_unmarked_eq h]

theorem eq_of_selects (ht : r.table = r'.table) (h : r.unmarked = r'.unmarked) {i : Nat}
    {x y : Item} (hr : r.Selects i x) (hr' : r'.Selects i y) : r = r' := by
  have hentries : r.entries = r'.entries := by rw [hr.entries_eq, hr'.entries_eq, h]
  cases r
  cases r'
  cases ht
  cases hentries
  rfl

end Roster

namespace Builder

open Roster

variable (b : Builder) {c c' : SavedPort}

/-! ### Builds of one host -/

variable {b} in
/-- **With the same gaps, the builds agree but for the mark.** -/
theorem unmarked_build_congr (hserial : b.serialGap c = b.serialGap c')
    (hbluetooth : b.bluetoothGap c = b.bluetoothGap c') (husb : b.usbGap c = b.usbGap c') :
    (b.build c).unmarked = (b.build c').unmarked := by
  have hfixed : (b.fixedStage c).unmarked = (b.fixedStage c').unmarked :=
    unmarked_eq_of_change (change_settleFixed c) (change_settleFixed c') rfl
      ((b.items_fixedStage c).trans (b.items_fixedStage c').symm)
  have hs : (b.serialStage c).unmarked = (b.serialStage c').unmarked := by
    refine unmarked_eq_of_change (change_settleSerial c) (change_settleSerial c')
      (unmarked_addSerial_congr hfixed _) ?_
    show (b.serialStage c).items = (b.serialStage c').items
    rw [items_serialStage, items_serialStage, hserial]
  have hb : (b.bluetoothStage c).unmarked = (b.bluetoothStage c').unmarked := by
    refine unmarked_eq_of_change (change_settleBluetooth _ c) (change_settleBluetooth _ c')
      (unmarked_pushAll_congr hs _) ?_
    show (b.bluetoothStage c).items = (b.bluetoothStage c').items
    rw [items_bluetoothStage, items_bluetoothStage, hserial, hbluetooth]
  have hu : (b.usbStage c).unmarked = (b.usbStage c').unmarked := by
    refine unmarked_eq_of_change (change_settleUsb c) (change_settleUsb c')
      (unmarked_pushAll_congr hb _) ?_
    show (b.usbStage c).items = (b.usbStage c').items
    rw [items_usbStage, items_usbStage, hserial, hbluetooth, husb]
  refine unmarked_eq_of_change (change_addUart _ c) (change_addUart _ c')
    (unmarked_pushAll_congr hu _) ?_
  show (b.build c).items = (b.build c').items
  rw [items_build, items_build, hserial, hbluetooth, husb]

variable {b} in
/-- **With the same gaps and the same position, the builds agree.** -/
theorem build_eq_of_selects (hserial : b.serialGap c = b.serialGap c')
    (hbluetooth : b.bluetoothGap c = b.bluetoothGap c') (husb : b.usbGap c = b.usbGap c') {i : Nat}
    {x y : Item} (hc : (b.build c).Selects i x) (hc' : (b.build c').Selects i y) :
    b.build c = b.build c' :=
  eq_of_selects ((b.table_build c).trans (b.table_build c').symm)
    (unmarked_build_congr hserial hbluetooth husb) hc hc'

variable {b} in
/-- Two saved ports with a gap at one place are told apart by their placeholders at most, and only
where these are needed. -/
theorem build_eq_of_gap? {family : Family} {p p' : Item} (h : b.gap? c = some (family, p))
    (h' : b.gap? c' = some (family, p')) (hkey : p.kind.key = p'.kind.key)
    (hvalue : p.value = p'.value)
    (hmissing : (b.upTo family).find? (Item.keyed p.kind.key p.value) = none → p = p') :
    b.build c = b.build c' := by
  have hgap : p.missingFrom (b.upTo family) = p'.missingFrom (b.upTo family) := by
    cases hfind : (b.upTo family).find? (Item.keyed p.kind.key p.value) with
    | some i =>
      rw [Item.missingFrom_of_find?_eq_some hfind]
      rw [hkey, hvalue] at hfind
      rw [Item.missingFrom_of_find?_eq_some hfind]
    | none => rw [hmissing hfind]
  obtain ⟨hs, hm, hu⟩ := b.gaps_of_gap? h
  obtain ⟨hs', hm', hu'⟩ := b.gaps_of_gap? h'
  have hsel := b.selects_build_of_gap? h
  have hsel' := b.selects_build_of_gap? h'
  rw [← hkey, ← hvalue] at hsel'
  exact build_eq_of_selects (by rw [hs, hs', hgap]) (by rw [hm, hm', hgap]) (by rw [hu, hu', hgap])
    hsel hsel'

variable {b} in
theorem build_eq_of_found {family family' : Family} {p p' i i' : Item}
    (h : b.gap? c = some (family, p)) (h' : b.gap? c' = some (family', p'))
    (hfind : (b.upTo family).find? (Item.keyed p.kind.key p.value) = some i)
    (hfind' : (b.upTo family').find? (Item.keyed p'.kind.key p'.value) = some i')
    (hidx : (b.upTo family).findIdx (Item.keyed p.kind.key p.value) =
      (b.upTo family').findIdx (Item.keyed p'.kind.key p'.value)) :
    b.build c = b.build c' := by
  have hnil := Item.missingFrom_of_find?_eq_some hfind
  have hnil' := Item.missingFrom_of_find?_eq_some hfind'
  obtain ⟨hs, hm, hu⟩ := b.gaps_of_gap? h
  obtain ⟨hs', hm', hu'⟩ := b.gaps_of_gap? h'
  have hsel := b.selects_build_of_gap? h
  have hsel' := b.selects_build_of_gap? h'
  rw [← hidx] at hsel'
  rw [hnil, ite_self] at hs hm hu
  rw [hnil', ite_self] at hs' hm' hu'
  exact build_eq_of_selects (hs.trans hs'.symm) (hm.trans hm'.symm) (hu.trans hu'.symm) hsel hsel'

/-- **A build reads the kind and the field in use.** -/
theorem build_congr (hk : c.kind = c'.kind) (hv : c.value = c'.value) :
    b.build c = b.build c' := by
  have hpath (h : c'.kind.key = .path) : c.path = c'.path := by
    simpa [SavedPort.value, hk, h] using hv
  have hmac (h : c'.kind.key = .bluetoothMac) : c.bluetoothMac = c'.bluetoothMac := by
    simpa [SavedPort.value, hk, h] using hv
  have hline (h : c'.kind.key = .uartIndex) : c.uartText = c'.uartText := by
    simpa [SavedPort.value, hk, h] using hv
  have hfixed : b.fixedStage c = b.fixedStage c' := by
    unfold fixedStage settleFixed
    rw [hk]
  have hserial : b.serialStage c = b.serialStage c' := by
    unfold serialStage settleSerial
    rw [hk, hfixed]
    split_ifs with h
    · rw [hpath (by rw [h]; rfl)]
    · rfl
  have hbluetooth : b.bluetoothStage c = b.bluetoothStage c' := by
    unfold bluetoothStage settleBluetooth SavedPort.usesMac
    rw [hk, hserial]
    by_cases h : c'.kind.usesMac
    · rw [hmac (by simpa [Kind.usesMac] using h)]
    · rw [if_neg fun hm => h hm.1, if_neg fun hm => h hm.1]
  have husb : b.usbStage c = b.usbStage c' := by
    unfold usbStage settleUsb
    rw [hk, hbluetooth]
    by_cases h : c'.kind = .usbSerial
    · rw [hpath (by rw [h]; rfl)]
    · rw [if_neg fun hu => h hu.1, if_neg fun hu => h hu.1]
  unfold build addUart savedLine?
  rw [hk, husb]
  by_cases h : c'.kind = .ioioUart
  · rw [hline (by rw [h]; rfl)]
  · rw [if_neg h, if_neg h]

end Builder

end PortRoster
