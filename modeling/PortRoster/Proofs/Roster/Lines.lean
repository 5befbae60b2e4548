import PortRoster.Proofs.PortId.Word
import PortRoster.Proofs.Roster.Selection
import PortRoster.Proofs.Text.Run

/-! # Which line a build selects

A line is selected by its identifier, which counts in 16 bits, and the first entry that has the
identifier is taken. If no other source reports lines, only lines can have it: identifiers name the
kinds of their entries. Of the lines, those whose numbers agree in the lower 16 bits have one
identifier, however many entries stand before them. So the line with the saved number is selected up
to 65536 lines, and beyond that the line that its number is in 16 bits.

* `indexOf?_pushAll`: where the identifier of a line is found.
* `build_selects_line`: which line a build selects, in lists of any length. -/

namespace PortRoster

namespace Roster

variable {r : Roster}

/-- **The identifier of a line is found at the first line that has it.** That is the one whose
number is the number of the line in 16 bits, wherever the lines start. -/
theorem indexOf?_pushAll {kind : Kind} (hold : ∀ e ∈ r.entries, e.id.kind ≠ kind)
    {items : List Item} (hitems : ∀ i ∈ items, i.kind = kind) {k : Nat} (hk : k < items.length)
    (h : r.size + k % serialBound < (r.pushAll items).size) :
    (r.pushAll items).indexOf? (.encode kind (r.size + k)) =
      some ⟨r.size + k % serialBound, h⟩ := by
  have hline (i : Fin (r.pushAll items).size) (j : Nat) (hj : j < items.length)
      (hij : (i : Nat) = r.size + j) :
      ((r.pushAll items).entryAt i).id = .encode kind (r.size + j) := by
    rw [Fin.ext hij (b := ⟨r.size + j, hij ▸ i.isLt⟩), ← hitems _ (List.getElem_mem hj)]
    simp [entryAt, pushAll, Roster.append, newEntries, Entry.ofItems, size, Entry.ofItem]
  have hmod : k % serialBound ≤ k := Nat.mod_le _ _
  have hfound : ((r.pushAll items).entryAt ⟨_, h⟩).id = .encode kind (r.size + k) := by
    rw [hline ⟨_, h⟩ _ (by omega) rfl, PortId.encode_eq_encode_iff, Nat.add_mod_mod]
    exact ⟨rfl, rfl⟩
  have hfirst (j : Fin (r.pushAll items).size) (hj : (j : Nat) < r.size + k % serialBound) :
      ((r.pushAll items).entryAt j).id ≠ .encode kind (r.size + k) := by
    intro hid
    rcases Nat.lt_or_ge j r.size with hlt | hge
    · -- An entry from before names its own kind.
      have hentry : (r.pushAll items).entryAt j = r.entries[(j : Nat)] :=
        List.getElem_append_left hlt
      refine hold _ (List.getElem_mem hlt) ?_
      rw [← hentry, hid, PortId.kind_encode]
    · -- A line below that number has another number in 16 bits.
      obtain ⟨m, hm⟩ := Nat.exists_eq_add_of_le hge
      rw [hline j m (by omega) hm, PortId.encode_eq_encode_iff] at hid
      obtain ⟨-, hid⟩ := hid
      unfold serialBound at *
      omega
  exact List.findFinIdx?_eq_some_iff.2 ⟨decide_eq_true hfound,
    fun j hj hsame => hfirst j hj (of_decide_eq_true hsame)⟩

theorem eq_uartDiscovery {count : Nat} {help : List String} {before after : List Discovery}
    {d : Discovery} (h : (Source.uartLines count help).found = before ++ d :: after) :
    d = uartDiscovery help before.length := by
  have hget : (Source.uartLines count help).found[before.length]? = some d := by
    rw [h, List.getElem?_append_right (Nat.le_refl _), Nat.sub_self]
    rfl
  have hmap : (Source.uartLines count help).found =
      (List.range count).map (uartDiscovery help) := rfl
  rw [hmap, List.getElem?_map, Option.map_eq_some_iff] at hget
  obtain ⟨line, hline, rfl⟩ := hget
  obtain ⟨hlt, heq⟩ := List.getElem?_eq_some_iff.1 hline
  rw [← heq, List.getElem_range]

theorem selects_addUart_uartLines (hold : ∀ e ∈ r.entries, e.id.kind ≠ .ioioUart) {count : Nat}
    (help : List String) {saved : SavedPort} (hk : saved.kind = .ioioUart)
    (hlt : saved.uartLine.toNat < count) :
    (r.addUart (Source.uartLines count help).found saved).Selects
      (r.size + saved.uartLine.toNat % serialBound)
      (uartDiscovery help (saved.uartLine.toNat % serialBound)).shown := by
  have hsaved : ∃ d ∈ (Source.uartLines count help).found, d.value = saved.uartText :=
    ⟨uartDiscovery help saved.uartLine.toNat, List.mem_map_of_mem (List.mem_range.2 hlt), rfl⟩
  obtain ⟨before, d, after, hfound, hd, hafter⟩ := Builder.exists_last_line hsaved
  have hline := eq_uartDiscovery hfound
  have hnumber : before.length = saved.uartLine.toNat := by
    rw [hline] at hd
    exact Text.decimalText_injective hd
  rw [← hnumber] at hlt ⊢
  let items := (Source.uartLines count help).found.map Discovery.item
  have hitems : items = (List.range count).map fun line => (uartDiscovery help line).item :=
    List.map_map
  have hlen : items.length = count := by rw [hitems, List.length_map, List.length_range]
  have hkinds : ∀ i ∈ items, i.kind = .ioioUart := by
    rw [hitems]
    intro i hi
    obtain ⟨line, -, rfl⟩ := List.mem_map.1 hi
    rfl
  have hmod : before.length % serialBound < count := Nat.lt_of_le_of_lt (Nat.mod_le _ _) hlt
  have hi : r.size + before.length % serialBound < (r.pushAll items).size := by
    rw [size_pushAll, hlen]
    omega
  have hindex := indexOf?_pushAll hold hkinds (by rwa [hlen]) hi
  have hitem : (r.pushAll items).items[r.size + before.length % serialBound]? =
      some (uartDiscovery help (before.length % serialBound)).shown := by
    rw [items_pushAll, ← length_items, List.getElem?_append_right (Nat.le_add_right _ _),
      Nat.add_sub_cancel_left, hitems, List.map_map, List.getElem?_map, List.getElem?_range hmod]
    rfl
  rw [addUart_eq_selectAt hk hfound hd hafter (by rw [hline]; exact hindex)]
  exact ⟨by rw [items_selectAt]; exact hitem, (selects_selectAt ⟨_, hi⟩).selected⟩

end Roster

namespace Builder

variable {b : Builder}

theorem id_kind_ne_of_mem_usbStage
    (hothers : ∀ family, family ≠ .uart → ∀ d ∈ (b.sources.get family).found, d.kind ≠ .ioioUart)
    {saved : SavedPort} (hk : saved.kind = .ioioUart) {e : Entry}
    (he : e ∈ (b.usbStage saved).entries) : e.id.kind ≠ .ioioUart := by
  have hr : (b.usbStage saved).Coherent := Roster.coherent_of_reaches
    ((b.reaches_fixedStage saved).trans (b.reaches_usbStage_of_fixedStage saved))
    (Roster.coherent_empty _)
  have hmem : e.toItem ∈ b.upTo .usbSerial := by
    rw [← b.items_usbStage_of_line hk]
    exact List.mem_map_of_mem he
  rw [hr.kind_eq he]
  simp only [upTo, List.mem_append] at hmem
  rcases hmem with ((hfixed | hserial) | hbluetooth) | husb
  · intro hline
    have hkey := key_of_mem_fixedItems hfixed
    rw [hline] at hkey
    cases hkey
  · obtain ⟨d, hd, hitem⟩ := b.mem_serialItems.1 hserial
    rw [← hitem]
    exact hothers .serial (by decide) d hd
  · obtain ⟨d, hd, hitem⟩ := List.mem_map.1 hbluetooth
    rw [← hitem]
    exact hothers .bluetooth (by decide) d hd
  · obtain ⟨d, hd, hitem⟩ := List.mem_map.1 husb
    rw [← hitem]
    exact hothers .usbSerial (by decide) d hd

/-- **Which line a build selects.** In a list of any length, the line with the saved number is
selected if there are so many lines and the number has 16 bits. A greater number stands for the line
that it is in 16 bits, and for a number that no line has nothing is selected. No entry is ever added
for a line. The other sources must not report lines, which bonded devices and adapters never are. -/
theorem build_selects_line
    (hothers : ∀ family, family ≠ .uart → ∀ d ∈ (b.sources.get family).found, d.kind ≠ .ioioUart)
    {count : Nat} {help : List String} (huart : b.sources.uart = .uartLines count help)
    (k : UInt32) :
    (b.build (.ioioUart k)).items = b.given ∧
    (count ≤ k.toNat → (b.build (.ioioUart k)).marked = []) ∧
    (k.toNat < count → (b.build (.ioioUart k)).Selects
      ((b.upTo .usbSerial).length + k.toNat % 65536)
      (uartDiscovery help (k.toNat % 65536)).shown) ∧
    ((∃ i, (b.build (.ioioUart k)).Selects i (uartDiscovery help k.toNat).shown) ↔
      k.toNat < min count 65536) := by
  have hnone : count ≤ k.toNat → (b.build (.ioioUart k)).marked = [] := by
    intro hle
    refine Roster.marked_addUart_of_forall_ne _ rfl (marked_usbStage_of_line rfl) ?_
    rw [huart]
    intro d hd hv
    obtain ⟨line, hline, rfl⟩ := List.mem_map.1 hd
    have heq : line = k.toNat := Text.decimalText_injective hv
    have hlt := List.mem_range.1 hline
    omega
  have hline : k.toNat < count → (b.build (.ioioUart k)).Selects
      ((b.upTo .usbSerial).length + k.toNat % 65536)
      (uartDiscovery help (k.toNat % 65536)).shown := by
    intro hlt
    have hk : (SavedPort.ioioUart k).kind = .ioioUart := rfl
    rw [← b.items_usbStage_of_line hk, Roster.length_items, build, huart]
    exact Roster.selects_addUart_uartLines
      (fun e he => id_kind_ne_of_mem_usbStage hothers rfl he) help rfl hlt
  refine ⟨b.items_build_of_gap?_eq_none (b.gap?_of_line rfl), hnone, hline, ?_, fun hlt => ?_⟩
  · rintro ⟨i, hsel⟩
    obtain ⟨s, hmarked, -, hitem⟩ := hsel.exists_marked
    have hlt : k.toNat < count := by
      by_contra hle
      rw [hnone (Nat.le_of_not_lt hle)] at hmarked
      cases hmarked
    obtain ⟨s', hmarked', -, hitem'⟩ := (hline hlt).exists_marked
    rw [hmarked] at hmarked'
    cases hmarked'
    have hvalue : Text.decimalText k.toNat = Text.decimalText (k.toNat % 65536) :=
      congrArg Item.value (hitem.symm.trans hitem')
    have hmod := Text.decimalText_injective hvalue
    omega
  · have hmod : k.toNat % 65536 = k.toNat := Nat.mod_eq_of_lt (by omega)
    have hsel := hline (by omega)
    rw [hmod] at hsel
    exact ⟨_, hsel⟩

/-- A host with a bonded device and more lines than there are serial numbers. -/
def switchboard : Builder where
  table := .basic
  sources :=
    { bluetooth := .bonded [⟨"aa:bb", some "Vario", .ble⟩]
      uart := .uartLines 70000 [] }

/-- On the switchboard the line 65541 is saved, and line 5 is selected. -/
theorem build_selects_line_switchboard :
    (switchboard.build (.ioioUart 65541)).Selects 10 (uartDiscovery [] 5).shown := by
  have hothers : ∀ family, family ≠ .uart →
      ∀ d ∈ (switchboard.sources.get family).found, d.kind ≠ .ioioUart := by
    intro family hne
    cases family with
    | serial | usbSerial => exact fun d hd => absurd hd List.not_mem_nil
    | bluetooth => decide
    | uart => exact absurd rfl hne
  have hserial : switchboard.serialItems = [] := List.mergeSort_nil
  have hlength : (switchboard.upTo .usbSerial).length = 5 := by
    rw [upTo, hserial]
    rfl
  obtain ⟨-, -, hline, -⟩ := build_selects_line hothers rfl 65541
  have hsel := hline (by decide)
  rw [hlength] at hsel
  exact hsel

end Builder

end PortRoster
