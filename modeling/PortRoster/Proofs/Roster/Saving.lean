import PortRoster.Proofs.Roster.Resolve
import PortRoster.Proofs.SavedPort

/-! # Saving a port and finding it again

What a list keeps of the chosen entry is a saved port. In the next run the host may look different
altogether: other kinds are offered, and the sources find other ports, in another order, or fail.
A build for the saved port goes through its stages, and exactly one of them settles the port; the
marks that this stage leaves are the marks of the whole list.

* `exists_marked_build_of_path`, `exists_marked_build_of_mac`: a port with a path or an address is
  always selected.
* `marked_build_of_none`: a fixed kind is selected if the table offers it.
* `marked_build_of_line`: a UART line is selected if it is found.
* `build_saved`: what was saved for an entry leads to that port again. -/

namespace PortRoster

namespace ValueKey

theorem canonical_eq_self (key : ValueKey) {value : String}
    (h : ∀ c ∈ value.toList, ¬ Text.isBlank c ∧ c.toUpper = c) : key.canonical value = value := by
  have hdrop (cs : List Char) (hcs : ∀ c ∈ cs, c ∈ value.toList) :
      cs.dropWhile Text.isBlank = cs :=
    Text.dropWhile_eq_self fun c hc => (h c (hcs c (List.mem_of_mem_head? hc))).1
  have htrim : Text.trim value.toList = value.toList := by
    unfold Text.trim Text.trimEnd
    rw [hdrop _ fun c hc => hc, hdrop _ fun c hc => List.mem_reverse.1 hc, List.reverse_reverse]
  have hcap : Text.capitals value.toList = value.toList :=
    (List.map_congr_left fun c hc => (h c hc).2).trans (List.map_id _)
  cases key with
  | bluetoothMac =>
    show canonicalMac value = value
    unfold canonicalMac
    rw [htrim, hcap, String.ofList_toList]
  | none | path | uartIndex => rfl

theorem canonical_decimalText (key : ValueKey) (n : Nat) :
    key.canonical (Text.decimalText n) = Text.decimalText n := by
  refine canonical_eq_self key fun c hc => ?_
  rw [Text.decimalText, String.toList_ofList] at hc
  have hdigit := (Text.isDigit_iff c).1 (Nat.isDigit_of_mem_toDigits (by decide) (by decide) hc)
  constructor
  · simp [Text.isBlank, Text.blankRuns]
    omega
  · rcases Text.toUpper_cases c with ⟨h, -, -⟩ | ⟨-, h⟩
    · omega
    · exact h

end ValueKey

/-! ### Marks of the stages -/

namespace Roster

variable (r : Roster)

theorem marked_addSerial (found : List Discovery) : (r.addSerial found).marked = r.marked :=
  r.marked_append fun _ he => Entry.selected_of_mem_ofItems (List.mem_mergeSort.1 he)

theorem marked_selectFirst {p : Entry → Bool} (h : r.marked = []) :
    ((r.selectFirst p).1.marked ≠ [] ↔ ∃ e ∈ r.entries, p e) ∧
      ∀ s ∈ (r.selectFirst p).1.marked, ∃ e ∈ r.entries, p e ∧ s.toItem = e.toItem := by
  rcases selectFirst_cases (r := r) p with ⟨i, hi, -, hsel⟩ | ⟨hn, hsel⟩
  · have hmarked : (r.selectFirst p).1.marked = [{ r.entryAt i with selected := true }] := by
      rw [hsel]
      exact r.marked_selectAt i
    rw [hmarked]
    refine ⟨⟨fun _ => ⟨_, r.entryAt_mem i, hi⟩, fun _ => List.cons_ne_nil _ _⟩, ?_⟩
    intro s hs
    rw [List.mem_singleton.1 hs]
    exact ⟨_, r.entryAt_mem i, hi, rfl⟩
  · have hmarked : (r.selectFirst p).1.marked = [] := by
      rw [hsel]
      exact h
    rw [hmarked]
    refine ⟨⟨fun hne => absurd rfl hne, fun ⟨e, he, hp⟩ => absurd hp (hn e he)⟩, ?_⟩
    exact fun s hs => absurd hs List.not_mem_nil

theorem exists_select {e : Entry} (he : e ∈ r.entries) :
    ∃ i : Fin r.size, r.select e.id = (r.selectAt i, true) ∧ (r.entryAt i).id = e.id := by
  unfold select indexOf?
  rcases position?_cases (r := r) (fun d => d.id = e.id) with ⟨i, hi, -, h⟩ | ⟨hn, -⟩
  · exact ⟨i, by rw [h]; rfl, of_decide_eq_true hi⟩
  · exact absurd (decide_eq_true rfl) (hn e he)

theorem value_of_mem_zip {found : List Discovery} {p : Entry × Discovery}
    (hp : p ∈ (r.newEntries (found.map Discovery.item)).zip found) :
    p.1.value = p.2.kind.key.canonical p.2.value := by
  obtain ⟨i, hi, rfl⟩ := List.getElem_of_mem hp
  rw [List.getElem_zip]
  simp [newEntries, Entry.ofItems, Entry.ofItem, Discovery.item]

theorem savedLine?_cases {saved : SavedPort} (hk : saved.kind = .ioioUart)
    (found : List Discovery) :
    (∃ e ∈ r.newEntries (found.map Discovery.item), e.value = saved.uartText ∧
      (∃ d ∈ found, d.value = saved.uartText) ∧ r.savedLine? found saved = some e.id) ∨
      (∀ d ∈ found, d.value ≠ saved.uartText) ∧ r.savedLine? found saved = none := by
  unfold savedLine?
  rw [if_pos hk]
  cases hfind : ((r.newEntries (found.map Discovery.item)).zip found).reverse.find?
      (fun p => p.2.value == saved.uartText) with
  | none =>
    refine .inr ⟨fun d hd hv => ?_, rfl⟩
    rw [List.find?_eq_none] at hfind
    have hlen : (r.newEntries (found.map Discovery.item)).length = found.length := by
      rw [newEntries, Entry.length_ofItems, List.length_map]
    obtain ⟨i, hi, rfl⟩ := List.getElem_of_mem hd
    have hz : i < ((r.newEntries (found.map Discovery.item)).zip found).length := by
      rw [List.length_zip, hlen]
      omega
    have := hfind _ (List.mem_reverse.2 (List.getElem_mem hz))
    rw [List.getElem_zip] at this
    exact this (beq_iff_eq.2 hv)
  | some p =>
    have hp := List.mem_reverse.1 (List.mem_of_find?_eq_some hfind)
    have hv : p.2.value = saved.uartText := by simpa using List.find?_some hfind
    obtain ⟨he, hd⟩ := List.of_mem_zip (show (p.1, p.2) ∈ _ from hp)
    refine .inl ⟨p.1, he, ?_, ⟨p.2, hd, hv⟩, rfl⟩
    rw [r.value_of_mem_zip hp, hv]
    exact ValueKey.canonical_decimalText _ _

theorem marked_addUart_of_forall_ne {saved : SavedPort} (hk : saved.kind = .ioioUart)
    (hm : r.marked = []) {found : List Discovery}
    (hno : ∀ d ∈ found, d.value ≠ saved.uartText) : (r.addUart found saved).marked = [] := by
  rcases r.savedLine?_cases hk found with ⟨-, -, -, ⟨d, hd, hv⟩, -⟩ | ⟨-, hline⟩
  · exact absurd hv (hno d hd)
  · rw [addUart_of_savedLine_eq_none hline, marked_pushAll, hm]

theorem marked_addUart {saved : SavedPort} (hk : saved.kind = .ioioUart) (hm : r.marked = [])
    (found : List Discovery)
    (hids : ((r.pushAll (found.map Discovery.item)).entries.map (·.id)).Nodup) :
    ((r.addUart found saved).marked ≠ [] ↔ ∃ d ∈ found, d.value = saved.uartText) ∧
      ∀ s ∈ (r.addUart found saved).marked, s.value = saved.uartText := by
  rcases r.savedLine?_cases hk found with ⟨e, he, hv, hd, hline⟩ | ⟨hn, -⟩
  · have hmem : e ∈ (r.pushAll (found.map Discovery.item)).entries := List.mem_append_right _ he
    obtain ⟨i, hsel, hid⟩ := exists_select _ hmem
    have hie := List.inj_on_of_nodup_map hids (entryAt_mem _ i) hmem hid
    have huart : r.addUart found saved = (r.pushAll (found.map Discovery.item)).selectAt i := by
      unfold addUart
      rw [hline]
      exact congrArg Prod.fst hsel
    rw [huart, marked_selectAt, hie]
    refine ⟨⟨fun _ => hd, fun _ => List.cons_ne_nil _ _⟩, fun s hs => ?_⟩
    rw [List.mem_singleton.1 hs]
    exact hv
  · rw [r.marked_addUart_of_forall_ne hk hm hn]
    refine ⟨⟨fun hne => absurd rfl hne, fun ⟨d, hd, hv⟩ => absurd hv (hn d hd)⟩, ?_⟩
    exact fun s hs => absurd hs List.not_mem_nil

end Roster

theorem Kind.eq_of_key_path (k : Kind) (h : k.key = .path) : k = .serial ∨ k = .usbSerial := by
  cases k <;> first | exact .inl rfl | exact .inr rfl | cases h

namespace Builder

variable {b : Builder} {saved : SavedPort}

theorem marked_addFixed (table : KindTable) : (Roster.empty table).addFixed.marked = [] := by
  rw [Roster.addFixed, Roster.marked_pushAll]
  rfl

theorem marked_fixedStage (h : saved.kind.carriesValue) : (b.fixedStage saved).marked = [] := by
  unfold fixedStage Roster.settleFixed
  rw [if_pos h, marked_addFixed]

theorem marked_serialStage (h : saved.kind ≠ .serial) :
    (b.serialStage saved).marked = (b.fixedStage saved).marked := by
  unfold serialStage Roster.settleSerial
  rw [if_neg h, Roster.marked_addSerial]

theorem marked_bluetoothStage (h : saved.kind.key ≠ .bluetoothMac) :
    (b.bluetoothStage saved).marked = (b.serialStage saved).marked := by
  have hm : ¬ (saved.usesMac ∧ saved.bluetoothMac ≠ "") := by
    simp [SavedPort.usesMac, Kind.usesMac, h]
  unfold bluetoothStage Roster.settleBluetooth
  rw [if_neg hm, Roster.addBluetooth, Roster.marked_pushAll]

theorem marked_usbStage (h : saved.kind ≠ .usbSerial) :
    (b.usbStage saved).marked = (b.bluetoothStage saved).marked := by
  unfold usbStage Roster.settleUsb
  rw [if_neg fun hu => h hu.1, Roster.addUsb, Roster.marked_pushAll]

theorem marked_usbStage_of_line (h : saved.kind = .ioioUart) : (b.usbStage saved).marked = [] := by
  rw [marked_usbStage (by rw [h]; decide), marked_bluetoothStage (by rw [h]; decide),
    marked_serialStage (by rw [h]; decide), marked_fixedStage (by rw [h]; rfl)]

theorem marked_build (h : saved.kind ≠ .ioioUart) :
    (b.build saved).marked = (b.usbStage saved).marked := by
  have hline : (b.usbStage saved).savedLine? b.sources.uart.found saved = none := if_neg h
  rw [build, Roster.addUart_of_savedLine_eq_none hline, Roster.marked_pushAll]

/-! ### Ports that always return -/

variable (b saved)

theorem exists_marked_of_reconcileLabelled (r : Roster) {kind : Kind} (h : kind.carriesValue)
    (value : String) (label : Option String) :
    ∃ s, (r.reconcileLabelled kind value label).1.marked = [s] ∧ s.kind.key = kind.key ∧
      s.value = kind.key.canonical value := by
  obtain ⟨s, hs, ha⟩ := Roster.exists_marked_reconcileLabelled (r := r) kind value label
  exact ⟨s, hs, (Entry.addresses_iff_samePort h value label s).1 ha⟩

/-- **A port with a path is selected**, unless it is an adapter with an empty id. -/
theorem exists_marked_build_of_path (h : saved.kind.key = .path)
    (hv : saved.path ≠ "" ∨ saved.kind = .serial) :
    ∃ s, (b.build saved).marked = [s] ∧ s.kind.key = .path ∧ s.value = saved.path := by
  have hmac : saved.kind.key ≠ .bluetoothMac := by rw [h]; decide
  rcases saved.kind.eq_of_key_path h with hk | hk
  · rw [marked_build (by rw [hk]; decide), marked_usbStage (by rw [hk]; decide),
      marked_bluetoothStage hmac]
    unfold serialStage Roster.settleSerial
    rw [if_pos hk]
    exact exists_marked_of_reconcileLabelled _ rfl _ _
  · have hpath : saved.path ≠ "" := by
      rcases hv with hv | hv
      · exact hv
      · rw [hk] at hv; cases hv
    rw [marked_build (by rw [hk]; decide)]
    unfold usbStage Roster.settleUsb
    rw [if_pos ⟨hk, hpath⟩]
    exact exists_marked_of_reconcileLabelled _ rfl _ _

/-- **A port with an address is selected**, unless the address is empty. -/
theorem exists_marked_build_of_mac (h : saved.kind.key = .bluetoothMac)
    (hv : saved.bluetoothMac ≠ "") :
    ∃ s, (b.build saved).marked = [s] ∧ s.kind.key = .bluetoothMac ∧
      s.value = ValueKey.canonicalMac saved.bluetoothMac := by
  have hne (k : Kind) (hk : k.key ≠ .bluetoothMac) : saved.kind ≠ k := by
    rintro rfl
    exact hk h
  have hm : saved.usesMac ∧ saved.bluetoothMac ≠ "" :=
    ⟨by simp [SavedPort.usesMac, Kind.usesMac, h], hv⟩
  rw [marked_build (hne _ (by decide)), marked_usbStage (hne _ (by decide))]
  unfold bluetoothStage Roster.settleBluetooth
  rw [if_pos hm]
  have hc : saved.kind.carriesValue := by simp [Kind.carriesValue, h]
  obtain ⟨s, hs, hkey, hvalue⟩ := exists_marked_of_reconcileLabelled
    ((b.serialStage saved).addBluetooth b.sources.bluetooth.found) hc saved.bluetoothMac
    (b.sources.bluetooth.nameFor saved.bluetoothMac)
  rw [h] at hkey hvalue
  exact ⟨s, hs, hkey, hvalue⟩

/-! ### Ports that return if the host has them -/

theorem exists_kind_addFixed (table : KindTable) (kind : Kind) :
    (∃ e ∈ (Roster.empty table).addFixed.entries, e.kind == kind) ↔ table.offers kind := by
  have hitems := (Roster.empty table).items_addFixed
  have hoffers : table.offers kind ↔ ∃ i ∈ table.kinds.map FixedKind.item, i.kind = kind := by
    simp [KindTable.offers, FixedKind.item]
  have hempty : (Roster.empty table).items = [] := rfl
  rw [hempty, List.nil_append] at hitems
  rw [hoffers]
  show _ ↔ ∃ i ∈ (Roster.empty table).table.kinds.map FixedKind.item, i.kind = kind
  rw [← hitems]
  simp [Roster.items]

/-- **A fixed kind is selected if the table offers it.** -/
theorem marked_build_of_none (h : saved.kind.key = .none) :
    ((b.build saved).marked ≠ [] ↔ b.table.offers saved.kind) ∧
      ∀ s ∈ (b.build saved).marked, s.kind = saved.kind := by
  have hne (k : Kind) (hk : k.key ≠ .none) : saved.kind ≠ k := by
    rintro rfl
    exact hk h
  have hc : ¬ saved.kind.carriesValue := by simp [Kind.carriesValue, h]
  rw [marked_build (hne _ (by decide)), marked_usbStage (hne _ (by decide)),
    marked_bluetoothStage (by rw [h]; decide), marked_serialStage (hne _ (by decide))]
  unfold fixedStage Roster.settleFixed
  rw [if_neg hc, ← exists_kind_addFixed]
  obtain ⟨hsome, hall⟩ := Roster.marked_selectFirst (Roster.empty b.table).addFixed
    (p := fun e => e.kind == saved.kind) (marked_addFixed b.table)
  refine ⟨hsome, fun s hs => ?_⟩
  obtain ⟨e, -, hk, he⟩ := hall s hs
  exact (congrArg Item.kind he).trans (eq_of_beq hk)

/-- **A line is selected if it is found.** -/
theorem marked_build_of_line (h : saved.kind = .ioioUart)
    (hs : (b.build saved).size ≤ serialBound) :
    ((b.build saved).marked ≠ [] ↔ ∃ d ∈ b.sources.uart.found, d.value = saved.uartText) ∧
      ∀ s ∈ (b.build saved).marked, s.value = saved.uartText := by
  have hm := marked_usbStage_of_line (b := b) h
  let listed := (b.usbStage saved).pushAll (b.sources.uart.found.map Discovery.item)
  have hlisted : (Roster.empty b.table).Reaches listed :=
    (b.reaches_fixedStage saved).trans <|
      (b.reaches_usbStage_of_fixedStage saved).trans (Roster.reaches_pushAll _)
  have hsize : listed.size = (b.build saved).size := by
    rw [← Roster.length_items, ← Roster.length_items, build, Roster.items_addUart,
      Roster.items_pushAll]
    simp
  have hids : (listed.entries.map (·.id)).Nodup :=
    (Roster.coherent_of_reaches hlisted (Roster.coherent_empty _)).nodup_ids (by rwa [hsize])
  exact (b.usbStage saved).marked_addUart h hm _ hids

/-- **What was saved for an entry leads to that port again.** The entry may stand in any list of up
to 65536 entries, and the next list may be built from any other table and sources. A port with a path
or an address is selected, even if it is not there; a fixed kind is selected if the table offers it,
and a UART line if it is found. -/
theorem build_saved (b₁ b₂ : Builder) (c : SavedPort) {e : Entry}
    (he : e ∈ (b₁.build c).entries) (hs : (b₁.build c).size ≤ 65536) :
    ∃ c₂, (b₁.build c).toSaved e.id.raw = some c₂ ∧
      ((b₂.build c₂).size ≤ 65536 →
        (b₂.build c₂).marked.length ≤ 1 ∧
        (e.kind.key = .path ∨ e.kind.key = .bluetoothMac → e.value ≠ "" ∨ e.kind = .serial →
          ∃ s, (b₂.build c₂).marked = [s] ∧ s.kind.key = e.kind.key ∧ s.value = e.value) ∧
        (e.kind.key = .none →
          ((b₂.build c₂).marked ≠ [] ↔ b₂.table.offers e.kind) ∧
            ∀ s ∈ (b₂.build c₂).marked, s.kind = e.kind) ∧
        (e.kind = .ioioUart → (∃ n : UInt32, e.value = Text.decimalText n.toNat) →
          ((b₂.build c₂).marked ≠ [] ↔ ∃ d ∈ b₂.sources.uart.found, d.value = e.value) ∧
            ∀ s ∈ (b₂.build c₂).marked, s.value = e.value)) := by
  have hr := b₁.coherent_run_build c []
  have hf := b₁.fronted_run_build c []
  have hlook : (b₁.build c).lookup e.id.raw = some e := Roster.lookup_id hr hf hs he
  refine ⟨.ofValue e.kind e.value, Roster.toSaved_of_lookup hr hf hlook, fun hs₂ => ?_⟩
  have hkind := SavedPort.kind_ofValue e.kind e.value
  refine ⟨(Roster.Reachable.build b₂ _).coherent.marked, ?_, ?_, ?_⟩
  · rintro (hk | hk) hv
    · have hpath := SavedPort.path_ofValue hk e.value
      obtain ⟨s, hm, hkey, hvalue⟩ := b₂.exists_marked_build_of_path (.ofValue e.kind e.value)
        (by rw [hkind, hk]) (by rwa [hpath, hkind])
      exact ⟨s, hm, by rw [hkey, hk], by rw [hvalue, hpath]⟩
    · have hmac := SavedPort.bluetoothMac_ofValue hk e.value
      have hne : e.value ≠ "" := by
        rcases hv with hv | hv
        · exact hv
        · rw [hv] at hk; cases hk
      have hc : ValueKey.canonicalMac e.value = e.value := by
        have hc := hr.canonical_eq he
        rwa [hk] at hc
      obtain ⟨s, hm, hkey, hvalue⟩ := b₂.exists_marked_build_of_mac (.ofValue e.kind e.value)
        (by rw [hkind, hk]) (by rwa [hmac])
      exact ⟨s, hm, by rw [hkey, hk], by rw [hvalue, hmac, hc]⟩
  · intro hk
    have h := b₂.marked_build_of_none (.ofValue e.kind e.value) (by rw [hkind, hk])
    rwa [hkind] at h
  · rintro hk ⟨n, hn⟩
    have hkey : e.kind.key = .uartIndex := by rw [hk]; rfl
    have htext := SavedPort.uartText_ofValue hkey n
    rw [← hn] at htext
    have h := b₂.marked_build_of_line (.ofValue e.kind e.value) (by rw [hkind, hk]) hs₂
    rwa [htext] at h

/-- The bonded device is selected on a host that finds nothing. -/
theorem build_saved_bonded :
    ∃ e ∈ (workbench.build .unset).entries, e.value = "AA:BB" ∧
      ∃ c₂, (workbench.build .unset).toSaved e.id.raw = some c₂ ∧
        ∃ s, (build ⟨.basic, .none⟩ c₂).marked = [s] ∧ s.value = "AA:BB" := by
  have hitem : (⟨.bleHm10, "AA:BB", "Vario", none⟩ : Item) ∈ (workbench.build .unset).items := by
    have hmem : (⟨.bleHm10, "AA:BB", "Vario", none⟩ : Item) ∈ workbench.bluetoothItems := by decide
    rw [items_build]
    simp only [List.mem_append]
    exact .inl (.inl (.inl (.inl (.inr hmem))))
  obtain ⟨e, he, hitem⟩ := List.mem_map.1 hitem
  have hkind : e.kind = .bleHm10 := congrArg Item.kind hitem
  have hvalue : e.value = "AA:BB" := congrArg Item.value hitem
  obtain ⟨c₂, hc₂, h⟩ := build_saved workbench ⟨.basic, .none⟩ .unset he
    (Nat.le_trans (size_workbench_le _) (by decide))
  have hsize : (build ⟨.basic, .none⟩ c₂).size ≤ KindTable.basic.size + 0 + 0 + 0 + 0 + 1 :=
    size_build_le _ c₂
  obtain ⟨-, hselected, -, -⟩ := h (Nat.le_trans hsize (by decide))
  obtain ⟨s, hs, -, hsv⟩ := hselected (.inr (by rw [hkind]; rfl)) (.inl (by rw [hvalue]; decide))
  exact ⟨e, he, hvalue, c₂, hc₂, s, hs, by rw [hsv, hvalue]⟩

end Builder

end PortRoster
