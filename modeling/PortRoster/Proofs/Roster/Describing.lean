import PortRoster.Description
import PortRoster.Proofs.Roster.Selection

/-! # Descriptions of ports without a name

A description is the label, with the value behind it unless the value ends with the label. A port
that is found without a name is labelled with its value as it was found, while its entry keeps the
canonical spelling. So the value is shown once exactly where it was found in canonical spelling. A
path always is. An address in another spelling is shown in both, since the canonical one is not
longer than the one found, and so does not end with it; of blanks no value remains, and the blanks
are shown. The label of a placeholder is its canonical value, which is shown once.

* `ValueKey.endsWith_canonical_iff`: a canonical spelling ends only with itself.
* `Discovery.describe_shown`, `Discovery.describe_shown_eq_iff`: the description of a discovery.
* `Builder.build_described`: the descriptions in a build. -/

namespace PortRoster

/-! ### A spelling and its canonical one -/

theorem Text.length_trim_le (cs : List Char) : (trim cs).length ≤ cs.length := by
  have hend (cs : List Char) : (trimEnd cs).length ≤ cs.length := by
    obtain ⟨t, ht⟩ := exists_trimEnd_append cs
    have hlength := congrArg List.length ht
    rw [List.length_append] at hlength
    omega
  exact (hend _).trans (List.dropWhile_sublist _).length_le

namespace ValueKey

theorem length_canonical_le (k : ValueKey) (value : String) :
    (k.canonical value).toList.length ≤ value.toList.length := by
  cases k with
  | bluetoothMac =>
    show (String.ofList (Text.capitals (Text.trim value.toList))).toList.length ≤ _
    rw [String.toList_ofList, Text.capitals, List.length_map]
    exact Text.length_trim_le _
  | none => exact Nat.le_refl _
  | path => exact Nat.le_refl _
  | uartIndex => exact Nat.le_refl _

/-- **A canonical spelling ends with the spelling it is for only if the two are the same.** -/
theorem endsWith_canonical_iff {k : ValueKey} {value : String} :
    Text.endsWith value.toList (k.canonical value).toList = true ↔ k.canonical value = value := by
  rw [Text.endsWith_iff]
  constructor
  · rintro ⟨front, h⟩
    have hsuffix : value.toList <:+ (k.canonical value).toList := ⟨front, h.symm⟩
    exact String.toList_inj.1 (hsuffix.eq_of_length_le (k.length_canonical_le value)).symm
  · intro h
    exact ⟨[], by rw [h, List.nil_append]⟩

end ValueKey

/-! ### Descriptions -/

theorem Item.describe_of_key {i : Item} (hkey : i.kind.key = .path ∨ i.kind.key = .bluetoothMac)
    (l : Locale) : i.describe l =
      if i.value = "" ∨ Text.endsWith i.label.toList i.value.toList then i.label
      else i.label ++ " (" ++ i.value ++ ")" := by
  have hcarries : i.kind.carriesValue := by rcases hkey with h | h <;> simp [Kind.carriesValue, h]
  have hline : i.kind.key ≠ .uartIndex := by rcases hkey with h | h <;> simp [h]
  have hlabel : i.displayLabel l = i.label := if_pos (.inl hcarries)
  simp [describe, labelSaysValue, hlabel, hline]

namespace Discovery

variable {d : Discovery}

/-- The description of a discovery without a name: its value as it was found, with the canonical
spelling behind it where there is one and it is another. -/
theorem describe_shown (hname : d.label = none)
    (hkey : d.kind.key = .path ∨ d.kind.key = .bluetoothMac) (l : Locale) :
    d.shown.describe l =
      if d.shown.value = "" ∨ d.shown.value = d.value then d.value
      else d.value ++ " (" ++ d.shown.value ++ ")" := by
  have hlabel : d.shown.label = d.value := by rw [shown, hname, Option.getD_none]
  rw [Item.describe_of_key (i := d.shown) hkey, hlabel]
  exact if_congr (or_congr_right ValueKey.endsWith_canonical_iff) rfl rfl

/-- **A discovery without a name is described by its value exactly if the value was found in
canonical spelling.** -/
theorem describe_shown_eq_iff (hname : d.label = none)
    (hkey : d.kind.key = .path ∨ d.kind.key = .bluetoothMac) (l : Locale) :
    d.shown.describe l = d.shown.value ↔ d.shown.value = d.value := by
  rw [describe_shown hname hkey]
  split
  · exact eq_comm
  · next hother =>
    have hlonger : d.value ++ " (" ++ d.shown.value ++ ")" ≠ d.shown.value := fun h => by
      have hlength := congrArg String.length h
      simp only [String.length_append] at hlength
      have : ")".length = 1 := rfl
      omega
    exact iff_of_false hlonger fun h => hother (.inr h)

end Discovery

/-- **The label of a placeholder without a name is its value, which is described once.** -/
theorem describe_placeholder {kind : Kind} (hkey : kind.key = .path ∨ kind.key = .bluetoothMac)
    (value : String) (l : Locale) :
    (placeholder kind value none).describe l = (placeholder kind value none).value := by
  have hends : Text.endsWith (kind.key.canonical value).toList (kind.key.canonical value).toList :=
    Text.endsWith_iff.2 ⟨[], rfl⟩
  rw [Item.describe_of_key (i := placeholder kind value none) hkey]
  exact if_pos (.inr hends)

/-! ### The descriptions in a build -/

namespace Builder

variable {b : Builder} {saved : SavedPort}

theorem shown_mem_items_build {d : Discovery}
    (hd : d ∈ b.sources.serial.found ∨ d ∈ b.sources.bluetooth.found) :
    d.shown ∈ (b.build saved).items := by
  have hlisted : d.shown ∈ b.serialItems ∨ d.shown ∈ b.bluetoothItems :=
    hd.imp (fun h => b.mem_serialItems.2 ⟨d, h, rfl⟩) List.mem_map_of_mem
  rw [items_build]
  simp only [List.mem_append]
  tauto

theorem describe_of_gap? {family : Family} {p : Item} (h : b.gap? saved = some (family, p))
    (hname : saved.usesMac → b.sources.bluetooth.nameFor saved.bluetoothMac = none) (l : Locale) :
    p.describe l = p.value := by
  rcases b.gap?_cases h with ⟨-, -, rfl⟩ | ⟨hm, -, rfl⟩ | ⟨-, -, rfl⟩
  · exact describe_placeholder (.inl rfl) _ l
  · rw [hname hm.1]
    exact describe_placeholder (.inr (SavedPort.key_of_usesMac hm.1)) _ l
  · exact describe_placeholder (.inl rfl) _ l

/-- **Which entries without a name are described by their value.** An entry for a serial or
Bluetooth discovery without a name is, exactly if its value was found in canonical spelling: always
for a path, and for an address without blanks at the ends and without small letters. For any other
address the entry is described by the address as it was found, with the canonical spelling behind it
unless that is empty. A placeholder without a name is described by its value, however the address
was saved. -/
theorem build_described (b : Builder) (saved : SavedPort) (l : Locale) :
    (∀ d, d ∈ b.sources.serial.found ∨ d ∈ b.sources.bluetooth.found → d.label = none →
      d.kind.key = .path ∨ d.kind.key = .bluetoothMac →
      (∃ e ∈ (b.build saved).entries, e.toItem = d.shown) ∧
      ∀ e ∈ (b.build saved).entries, e.toItem = d.shown →
        (e.describe l = e.value ↔ d.kind.key.canonical d.value = d.value) ∧
        (d.kind.key = .path → e.describe l = e.value) ∧
        (e.value ≠ "" → e.value ≠ d.value →
          e.describe l = d.value ++ " (" ++ e.value ++ ")") ∧
        (e.value = "" → e.describe l = d.value)) ∧
    (b.AddsPlaceholder saved →
      (saved.usesMac → b.sources.bluetooth.nameFor saved.bluetoothMac = none) →
      ∃ i p, (b.build saved).Selects i p ∧ (b.build saved).items.eraseIdx i = b.given ∧
        p.describe l = p.value) := by
  refine ⟨fun d hd hname hkey => ⟨?_, fun e _ he => ?_⟩, fun hadds hname => ?_⟩
  · exact List.mem_map.1 (shown_mem_items_build hd)
  · have hiff := Discovery.describe_shown_eq_iff hname hkey l
    have hdescribe := Discovery.describe_shown hname hkey l
    rw [he]
    refine ⟨hiff, fun hpath => hiff.2 ?_, fun hne hother => ?_, fun hempty => ?_⟩
    · show d.kind.key.canonical d.value = d.value
      rw [hpath]
      rfl
    · rw [hdescribe, if_neg (not_or.2 ⟨hne, hother⟩)]
    · rw [hdescribe, if_pos (.inl hempty)]
  · cases hgap : b.gap? saved with
    | none => exact absurd (b.items_build_of_gap?_eq_none hgap) hadds
    | some g =>
      obtain ⟨i, hsel, hgiven⟩ := b.selects_placeholder_of_gap? hgap hadds
      exact ⟨i, g.2, hsel, hgiven, describe_of_gap? hgap hname l⟩

/-- A host with a port and three addresses, none of which has a name. -/
def anonymous : Builder where
  table := .basic
  sources :=
    { serial := { family := .serial, discover := .ok [{ kind := .serial, value := "COM1:" }] }
      bluetooth := .bonded [⟨"aa:bb", none, .classic⟩, ⟨"CC:DD", none, .ble⟩, ⟨" ", none, .ble⟩] }

/-- The port and the address in capitals are described by their values, and so is a placeholder for
an address in small letters. The two other addresses are not. -/
theorem build_described_anonymous :
    (∃ e ∈ (anonymous.build (.bluetooth .rfcomm "ee:ff")).entries,
      e.value = "COM1:" ∧ e.describe .en = "COM1:") ∧
    (∃ e ∈ (anonymous.build (.bluetooth .rfcomm "ee:ff")).entries,
      e.value = "AA:BB" ∧ e.describe .en = "aa:bb (AA:BB)") ∧
    (∃ e ∈ (anonymous.build (.bluetooth .rfcomm "ee:ff")).entries,
      e.value = "CC:DD" ∧ e.describe .en = "CC:DD") ∧
    (∃ e ∈ (anonymous.build (.bluetooth .rfcomm "ee:ff")).entries,
      e.value = "" ∧ e.describe .en = " ") ∧
    ∃ i p, (anonymous.build (.bluetooth .rfcomm "ee:ff")).Selects i p ∧
      (anonymous.build (.bluetooth .rfcomm "ee:ff")).items.eraseIdx i = anonymous.given ∧
      p.describe .en = p.value := by
  have hadds : anonymous.AddsPlaceholder (.bluetooth .rfcomm "ee:ff") := by
    refine (anonymous.addsPlaceholder_iff_of_mac ⟨rfl, by decide⟩).2 ?_
    rw [anonymous.find?_upTo_of_mac (by decide)]
    decide
  obtain ⟨found, placed⟩ := build_described anonymous (.bluetooth .rfcomm "ee:ff") .en
  obtain ⟨⟨port, hport, hshownPort⟩, describePort⟩ :=
    found { kind := .serial, value := "COM1:" } (by decide) rfl (.inl rfl)
  obtain ⟨⟨small, hsmall, hshownSmall⟩, describeSmall⟩ :=
    found { kind := .rfcomm, value := "aa:bb" } (by decide) rfl (.inr rfl)
  obtain ⟨⟨capital, hcapital, hshownCapital⟩, describeCapital⟩ :=
    found { kind := .bleHm10, value := "CC:DD" } (by decide) rfl (.inr rfl)
  obtain ⟨⟨blank, hblank, hshownBlank⟩, describeBlank⟩ :=
    found { kind := .bleHm10, value := " " } (by decide) rfl (.inr rfl)
  have hvaluePort : port.value = "COM1:" := congrArg Item.value hshownPort
  have hvalueSmall : small.value = "AA:BB" := (congrArg Item.value hshownSmall).trans (by decide)
  have hvalueCapital : capital.value = "CC:DD" :=
    (congrArg Item.value hshownCapital).trans (by decide)
  have hvalueBlank : blank.value = "" := (congrArg Item.value hshownBlank).trans (by decide)
  obtain ⟨-, hdescribePort, -, -⟩ := describePort port hport hshownPort
  obtain ⟨-, -, hdescribeSmall, -⟩ := describeSmall small hsmall hshownSmall
  obtain ⟨hdescribeCapital, -⟩ := describeCapital capital hcapital hshownCapital
  obtain ⟨-, -, -, hdescribeBlank⟩ := describeBlank blank hblank hshownBlank
  refine ⟨⟨port, hport, hvaluePort, (hdescribePort rfl).trans hvaluePort⟩,
    ⟨small, hsmall, hvalueSmall, ?_⟩,
    ⟨capital, hcapital, hvalueCapital, (hdescribeCapital.2 (by decide)).trans hvalueCapital⟩,
    ⟨blank, hblank, hvalueBlank, hdescribeBlank hvalueBlank⟩, placed hadds fun _ => by decide⟩
  rw [hdescribeSmall (by rw [hvalueSmall]; decide) (by rw [hvalueSmall]; decide), hvalueSmall]
  decide

/-- So not every entry for an address without a name is described by its value. -/
theorem not_forall_build_described :
    ¬ ∀ (b : Builder) (saved : SavedPort) (l : Locale) (d : Discovery),
      d ∈ b.sources.serial.found ∨ d ∈ b.sources.bluetooth.found → d.label = none →
      d.kind.key = .path ∨ d.kind.key = .bluetoothMac →
      ∀ e ∈ (b.build saved).entries, e.toItem = d.shown → e.describe l = e.value := by
  intro h
  have hd : { kind := .rfcomm, value := "aa:bb" } ∈ anonymous.sources.serial.found ∨
      { kind := .rfcomm, value := "aa:bb" } ∈ anonymous.sources.bluetooth.found := by decide
  have hlisted : Discovery.shown { kind := .rfcomm, value := "aa:bb" } ∈
      (anonymous.build .unset).items := shown_mem_items_build hd
  obtain ⟨e, he, hshown⟩ := List.mem_map.1 hlisted
  have hdescribe := h anonymous .unset .en _ hd rfl (.inr rfl) e he hshown
  rw [hshown] at hdescribe
  exact absurd ((Discovery.describe_shown_eq_iff rfl (.inr rfl) .en).1 hdescribe) (by decide)

end Builder

end PortRoster
