import PortRoster.Proofs.Roster.Coherence
import PortRoster.Proofs.Text.NumericOrder

/-! # Hosts with numbered ports

A host that cannot search has the serial ports `COM1:`, `COM2:` and so on, as many as it is told. A
build puts serial ports in the natural order of their labels, and for these that is the order of
their numbers, in which they are reported. So the sort leaves them alone, and each has the serial
number of its place.

* `naturalOrder_comName`: the names compare as their numbers.
* `addSerial_comPorts`: the ports are listed as they are reported.
* `orders_by_number`: labels compare by number, and so numbered ports are listed in order. -/

namespace PortRoster

/-- The serial port with a number, as its entry shows it. -/
def Source.comItem (n : Nat) : Item := ⟨.serial, comName n, comName n, none⟩

namespace Source

theorem map_item_comPorts (count : Nat) :
    (comPorts count).found.map Discovery.item =
      (List.range count).map fun i => comItem (i + 1) := by
  show ((List.range count).map _).map Discovery.item = _
  rw [List.map_map]
  rfl

/-- **The names of the ports compare as their numbers.** -/
theorem naturalOrder_comName (m n : Nat) :
    Text.naturalOrder (comName m) (comName n) = compare m n := by
  have hrun (k : Nat) : (Text.Piece.digits (Text.decimalText k).toList).WellFormed := by
    rw [Text.decimalText, String.toList_ofList]
    exact ⟨Text.decimal_ne_nil k, fun _ hc => Text.isDigit_of_mem_decimal hc⟩
  have hnumber (k : Nat) : Text.numberOf (Text.decimalText k).toList = k := by
    rw [Text.decimalText, String.toList_ofList, Text.numberOf_decimal]
  by_cases h : m = n
  · rw [h, Nat.compare_eq_eq.2 rfl]
    exact Std.ReflCmp.compare_self
  · have hp : ∀ c, "COM".toList.getLast? = some c → ¬ c.isDigit := by
      intro c hc
      cases hc
      decide
    have hs : Text.Stops Char.isDigit ":".toList := Text.stops_cons rfl
    have hne : Text.numberOf (Text.decimalText m).toList ≠
        Text.numberOf (Text.decimalText n).toList := by rwa [hnumber, hnumber]
    have horder := Text.naturalOrder_of_runs hp (hrun m) (hrun n) hs hs hne
    rwa [hnumber, hnumber] at horder

end Source

namespace Roster

/-- **The ports are listed as they are reported**: putting them in order changes nothing. -/
theorem addSerial_comPorts (r : Roster) (count : Nat) :
    r.addSerial (Source.comPorts count).found =
      r.pushAll ((Source.comPorts count).found.map Discovery.item) := by
  have hsorted : (r.newEntries ((Source.comPorts count).found.map Discovery.item)).Pairwise
      (fun a b => a.labelLe b) := by
    rw [Source.map_item_comPorts, List.pairwise_iff_getElem]
    intro i j hi hj hij
    have hlabel : (compare (i + 1) (j + 1)).isLE := by
      rw [Nat.compare_eq_lt.2 (Nat.succ_lt_succ hij)]
      rfl
    rw [← Source.naturalOrder_comName] at hlabel
    simpa [newEntries, Entry.ofItems, Entry.labelLe, Entry.ofItem, Source.comItem,
      Text.naturalLe] using hlabel
  rw [addSerial, List.mergeSort_of_pairwise hsorted]
  rfl

end Roster

namespace Builder

variable {b : Builder} {count : Nat}

theorem serialItems_of_comPorts (h : b.sources.serial = .comPorts count) :
    b.serialItems = (List.range count).map fun i => Source.comItem (i + 1) := by
  have hitems := congrArg Roster.items (Roster.addSerial_comPorts (Roster.empty b.table) count)
  rw [Roster.items_addSerial, Roster.items_pushAll, Source.map_item_comPorts, List.map_map]
    at hitems
  rw [serialItems, h]
  exact List.append_cancel_left hitems

theorem getElem?_unmarked_of_comPorts (h : b.sources.serial = .comPorts count) (saved : SavedPort)
    {i : Nat} (hi : i < count) :
    (b.build saved).unmarked[b.table.size + i]? =
      some (.ofItem (Source.comItem (i + 1)) (b.table.size + i)) := by
  have hsize : (b.fixedStage saved).size = b.table.size := by
    rw [← Roster.length_items, items_fixedStage, fixedItems, List.length_map]
    rfl
  have hadded : ((b.fixedStage saved).addSerial b.sources.serial.found).unmarked =
      (b.fixedStage saved).unmarked ++
        Entry.ofItems b.table.size ((List.range count).map fun i => Source.comItem (i + 1)) := by
    rw [h, Roster.addSerial_comPorts, Source.map_item_comPorts, Roster.pushAll,
      Roster.unmarked_append, Roster.newEntries, Entry.map_unmarked_ofItems, hsize]
  have hreach : ((b.fixedStage saved).addSerial b.sources.serial.found).Reaches (b.build saved) :=
    (Roster.change_settleSerial saved).reaches.trans <|
      (b.reaches_bluetoothStage saved).trans <| (b.reaches_usbStage saved).trans <|
        (Roster.reaches_pushAll _).trans (Roster.change_addUart _ saved).reaches
  have hget : ((b.fixedStage saved).addSerial b.sources.serial.found).unmarked[b.table.size + i]? =
      some (.ofItem (Source.comItem (i + 1)) (b.table.size + i)) := by
    rw [hadded, ← hsize, ← Roster.length_unmarked,
      List.getElem?_append_right (Nat.le_add_right _ _), Nat.add_sub_cancel_left]
    simp [Entry.ofItems, hi]
  obtain ⟨more, hmore⟩ := Roster.unmarked_prefix_of_reaches hreach
  have hlt := (List.getElem?_eq_some_iff.1 hget).1
  rw [← hmore, List.getElem?_append_left hlt, hget]

/-- **Labels compare by number, and so numbered ports are listed in the order of their numbers.**
Two labels that begin alike, up to a character that is no digit, and go on with different numbers
compare as the numbers, whatever follows these. So putting the ports `COM1:`, `COM2:` and so on in
order changes nothing: every build lists them by number behind the fixed kinds, each with the serial
number of its place. -/
theorem orders_by_number :
    (∀ p x y s t : String, (∀ c, p.toList.getLast? = some c → ¬ c.isDigit) →
      x.toList ≠ [] ∧ (∀ c ∈ x.toList, c.isDigit) → y.toList ≠ [] ∧ (∀ c ∈ y.toList, c.isDigit) →
      (∀ c, s.toList.head? = some c → ¬ c.isDigit) →
      (∀ c, t.toList.head? = some c → ¬ c.isDigit) →
      Text.numberOf x.toList ≠ Text.numberOf y.toList →
      Text.naturalOrder (p ++ x ++ s) (p ++ y ++ t) =
        compare (Text.numberOf x.toList) (Text.numberOf y.toList)) ∧
    ∀ count, (∀ r : Roster, r.addSerial (Source.comPorts count).found =
        r.pushAll ((Source.comPorts count).found.map Discovery.item)) ∧
      ∀ (b : Builder) (saved : SavedPort), b.sources.serial = .comPorts count →
        (b.build saved).items = b.fixedItems ++
          (List.range count).map (fun i => Source.comItem (i + 1)) ++ b.serialGap saved ++
          b.bluetoothItems ++ b.bluetoothGap saved ++ b.usbItems ++ b.usbGap saved ++
          b.uartItems ∧
        ∀ i < count, (b.build saved).unmarked[b.table.size + i]? =
          some (.ofItem (Source.comItem (i + 1)) (b.table.size + i)) := by
  refine ⟨?_, fun count => ⟨fun r => r.addSerial_comPorts count, fun b saved h => ⟨?_, ?_⟩⟩⟩
  · intro p x y s t hp hx hy hs ht hne
    exact Text.naturalOrder_of_runs hp hx hy (fun c hc => Bool.eq_false_iff.2 (hs c hc))
      (fun c hc => Bool.eq_false_iff.2 (ht c hc)) hne
  · rw [items_build, serialItems_of_comPorts h]
  · exact fun i hi => getElem?_unmarked_of_comPorts h saved hi

/-- A host that cannot search, with as many ports as there are when no other number is given. -/
def console : Builder := ⟨.basic, { serial := .comPorts Source.comCount }⟩

/-- `ttyUSB9` comes before `ttyUSB010`, and behind the four fixed kinds the tenth port is the tenth
that is listed. -/
theorem orders_by_number_console :
    Text.naturalOrder "ttyUSB9" "ttyUSB010" = .lt ∧
      (console.build .unset).unmarked[13]? = some (.ofItem (Source.comItem 10) 13) := by
  obtain ⟨hlabels, hports⟩ := orders_by_number
  refine ⟨?_, ((hports Source.comCount).2 console .unset rfl).2 9 (by decide)⟩
  have hp : ∀ c, "ttyUSB".toList.getLast? = some c → ¬ c.isDigit := by
    intro c hc
    cases hc
    decide
  have hend : ∀ c, "".toList.head? = some c → ¬ c.isDigit := by
    intro c hc
    cases hc
  exact hlabels "ttyUSB" "9" "010" "" "" hp ⟨by decide, List.all_eq_true.1 rfl⟩
    ⟨by decide, List.all_eq_true.1 rfl⟩ hend hend (by decide)

end Builder

end PortRoster
