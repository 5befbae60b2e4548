import PortRoster.Source.Bluetooth
import PortRoster.Source.Usb

/-! # Flat lists of records

A host reports its devices in one flat list, some texts for each. The readers of such lists differ in
the width of a row and in what they read from one: a list is cut into rows, a row gives a record or
nothing, and what remains behind the last whole row is left out (`Flat.records`). So a row that gives
nothing moves no other row, and a list may be cut between rows.

* `Flat.records_append`, `Flat.records_skip`: cutting a list, and a row that gives nothing.
* `Flat.records_flatMap`: the records that a list was written from.
* `BondedDevice.ofFlat_eq_records`, `UsbAdapter.ofFlat_eq_records`: the two readers.
* `Flat.ofFlat_written`: all of it for both. -/

namespace PortRoster

namespace Flat

variable {α β γ : Type}

/-- The whole rows of a flat list, from its beginning. -/
def rows (width : Nat) (xs : List α) : List (List α) :=
  if 0 < width ∧ width ≤ xs.length then xs.take width :: rows width (xs.drop width) else []
termination_by xs.length
decreasing_by
  rw [List.length_drop]
  omega

/-- The records that are read from the rows of a flat list. -/
def records (width : Nat) (read : List α → Option β) (xs : List α) : List β :=
  (rows width xs).filterMap read

variable {width : Nat}

theorem rows_of_lt {xs : List α} (h : xs.length < width) : rows width xs = [] := by
  rw [rows, if_neg (by omega)]

theorem rows_row_append (hw : 0 < width) {row : List α} (h : row.length = width) (xs : List α) :
    rows width (row ++ xs) = row :: rows width xs := by
  rw [rows, if_pos ⟨hw, by rw [List.length_append]; omega⟩, List.take_left' h, List.drop_left' h]

theorem rows_append (hw : 0 < width) {xs : List α} (h : width ∣ xs.length) (ys : List α) :
    rows width (xs ++ ys) = rows width xs ++ rows width ys := by
  obtain ⟨n, hn⟩ := h
  -- The induction is on the number of rows in front.
  induction n generalizing xs with
  | zero =>
    have hnil : rows width ([] : List α) = [] := rows_of_lt hw
    rw [List.eq_nil_of_length_eq_zero hn, hnil]
    rfl
  | succ n ih =>
    rw [Nat.mul_succ] at hn
    have hrow : (xs.take width).length = width := by rw [List.length_take]; omega
    have hrest : (xs.drop width).length = width * n := by rw [List.length_drop]; omega
    rw [← List.take_append_drop width xs, List.append_assoc, rows_row_append hw hrow,
      rows_row_append hw hrow, ih hrest, List.cons_append]

variable {read : List α → Option β}

theorem records_row_append (hw : 0 < width) {row : List α} (h : row.length = width)
    (xs : List α) : records width read (row ++ xs) =
      (read row).toList ++ records width read xs := by
  rw [records, rows_row_append hw h, List.filterMap_cons]
  cases read row <;> rfl

/-- **A flat list may be cut between rows.** -/
theorem records_append (hw : 0 < width) {xs : List α} (h : width ∣ xs.length) (ys : List α) :
    records width read (xs ++ ys) = records width read xs ++ records width read ys := by
  rw [records, rows_append hw h, List.filterMap_append]
  rfl

/-- **A row that gives nothing moves no other row.** -/
theorem records_skip (hw : 0 < width) {xs row : List α} (h : width ∣ xs.length)
    (hrow : row.length = width) (hread : read row = none) (ys : List α) :
    records width read (xs ++ (row ++ ys)) = records width read (xs ++ ys) := by
  rw [records_append hw h, records_append hw h, records_row_append hw hrow, hread]
  rfl

/-- **A flat list gives back what its rows were written from**, whatever remains behind them. -/
theorem records_flatMap {write : γ → List α} {value : γ → β} {cs : List γ} {rest : List α}
    (h : ∀ c ∈ cs, (write c).length = width ∧ read (write c) = some (value c))
    (hrest : rest.length < width) :
    records width read (cs.flatMap write ++ rest) = cs.map value := by
  have hw : 0 < width := Nat.zero_lt_of_lt hrest
  induction cs with
  | nil => rw [List.flatMap_nil, List.nil_append, records, rows_of_lt hrest]; rfl
  | cons c cs ih =>
    obtain ⟨hlength, hread⟩ := h c List.mem_cons_self
    rw [List.flatMap_cons, List.append_assoc, records_row_append hw hlength, hread,
      ih fun d hd => h d (List.mem_cons_of_mem c hd)]
    rfl

end Flat

/-! ### The two readers -/

theorem RadioType.ofWord_eq {word : Option String} {radio : RadioType}
    (h : word = some "BLE" ↔ radio = .ble) : ofWord word = radio := by
  unfold ofWord
  split
  · next hword => exact (h.mp hword).symm
  · next hword =>
    cases radio with
    | classic => rfl
    | ble => exact (hword (h.mpr rfl)).elim

namespace BondedDevice

/-- The device in a row, if there is an address. -/
def ofRow : List (Option String) → Option BondedDevice
  | [some address, name, word] => some ⟨address, name, .ofWord word⟩
  | _ => none

theorem records_row (address name word : Option String) (rest : List (Option String)) :
    Flat.records 3 ofRow (address :: name :: word :: rest) =
      (ofRow [address, name, word]).toList ++ Flat.records 3 ofRow rest :=
  Flat.records_row_append (Nat.succ_pos 2) (rfl : [address, name, word].length = 3) rest

/-- **Devices are read in rows of three.** -/
theorem ofFlat_eq_records (xs : List (Option String)) : ofFlat xs = Flat.records 3 ofRow xs := by
  fun_induction ofFlat xs with
  | case1 address name word rest ih =>
    rw [records_row, ih]
    rfl
  | case2 name word rest ih =>
    rw [records_row, ih]
    rfl
  | case3 xs hsome hnone =>
    have hshort : xs.length < 3 := by
      match xs with
      | [] | [_] | [_, _] => simp
      | some address :: name :: word :: rest => exact (hsome address name word rest rfl).elim
      | none :: name :: word :: rest => exact (hnone name word rest rfl).elim
    rw [Flat.records, Flat.rows_of_lt hshort]
    rfl

end BondedDevice

namespace UsbAdapter

/-- The adapter in a row, if both halves are there. -/
def ofRow : List (Option String) → Option UsbAdapter
  | [some id, some name] => some ⟨id, name⟩
  | _ => none

theorem records_row (id name : Option String) (rest : List (Option String)) :
    Flat.records 2 ofRow (id :: name :: rest) =
      (ofRow [id, name]).toList ++ Flat.records 2 ofRow rest :=
  Flat.records_row_append (Nat.succ_pos 1) (rfl : [id, name].length = 2) rest

theorem ofRow_eq_none {id name : Option String} (h : id = none ∨ name = none) :
    ofRow [id, name] = none := by
  obtain rfl | rfl := h
  · rfl
  · cases id <;> rfl

/-- **Adapters are read in rows of two.** -/
theorem ofFlat_eq_records (xs : List (Option String)) : ofFlat xs = Flat.records 2 ofRow xs := by
  fun_induction ofFlat xs with
  | case1 id name rest ih =>
    rw [records_row, ih]
    rfl
  | case2 id name rest hboth ih =>
    have hhalf : id = none ∨ name = none := by
      match id, name, hboth with
      | none, _, _ => exact .inl rfl
      | some _, none, _ => exact .inr rfl
      | some id, some name, hboth => exact (hboth id name rfl rfl).elim
    rw [records_row, ofRow_eq_none hhalf, ih]
    rfl
  | case3 xs hsome hnone =>
    have hshort : xs.length < 2 := by
      match xs with
      | [] | [_] => simp
      | id :: name :: rest => exact (hnone id name rest rfl).elim
    rw [Flat.records, Flat.rows_of_lt hshort]
    rfl

end UsbAdapter

/-! ### What was written -/

namespace Flat

/-- **Both flat lists give back what was written**, in the order in which it was written. A device is
written as its address, its name or nothing, and a word that is `BLE` exactly if its radio has low
energy; whatever follows the last row, if it is less than a row, changes nothing. A row without an
address, and a pair that lacks a half, changes nothing wherever it stands, and a list may be cut
between rows. -/
theorem ofFlat_written :
    (∀ (written : List (BondedDevice × Option String)) (rest : List (Option String)),
      (∀ d ∈ written, d.2 = some "BLE" ↔ d.1.radio = .ble) → rest.length ≤ 2 →
        BondedDevice.ofFlat (written.flatMap (fun d => [some d.1.address, d.1.name, d.2]) ++ rest) =
          written.map Prod.fst) ∧
    (∀ (xs ys : List (Option String)) (name word : Option String), 3 ∣ xs.length →
      BondedDevice.ofFlat (xs ++ none :: name :: word :: ys) = BondedDevice.ofFlat (xs ++ ys)) ∧
    (∀ xs ys : List (Option String), 3 ∣ xs.length →
      BondedDevice.ofFlat (xs ++ ys) = BondedDevice.ofFlat xs ++ BondedDevice.ofFlat ys) ∧
    (∀ (adapters : List UsbAdapter) (rest : List (Option String)), rest.length ≤ 1 →
      UsbAdapter.ofFlat (adapters.flatMap (fun a => [some a.id, some a.name]) ++ rest) =
        adapters) ∧
    (∀ (xs ys : List (Option String)) (id name : Option String), 2 ∣ xs.length →
      id = none ∨ name = none →
        UsbAdapter.ofFlat (xs ++ id :: name :: ys) = UsbAdapter.ofFlat (xs ++ ys)) ∧
    (∀ xs ys : List (Option String), 2 ∣ xs.length →
      UsbAdapter.ofFlat (xs ++ ys) = UsbAdapter.ofFlat xs ++ UsbAdapter.ofFlat ys) := by
  refine ⟨fun written rest hwords hrest => ?_, fun xs ys name word h => ?_, fun xs ys h => ?_,
    fun adapters rest hrest => ?_, fun xs ys id name h hhalf => ?_, fun xs ys h => ?_⟩
  · rw [BondedDevice.ofFlat_eq_records]
    refine records_flatMap (fun d hd => ⟨rfl, ?_⟩) (by omega)
    show some (BondedDevice.mk d.1.address d.1.name (.ofWord d.2)) = some d.1
    rw [RadioType.ofWord_eq (hwords d hd)]
  · rw [BondedDevice.ofFlat_eq_records, BondedDevice.ofFlat_eq_records]
    exact records_skip (by decide) h (rfl : [none, name, word].length = 3) rfl ys
  · simp only [BondedDevice.ofFlat_eq_records]
    exact records_append (by decide) h ys
  · rw [UsbAdapter.ofFlat_eq_records]
    exact Eq.trans (records_flatMap (fun a ha => ⟨rfl, rfl⟩) (by omega)) (List.map_id adapters)
  · rw [UsbAdapter.ofFlat_eq_records, UsbAdapter.ofFlat_eq_records]
    exact records_skip (by decide) h (rfl : [id, name].length = 2)
      (UsbAdapter.ofRow_eq_none hhalf) ys
  · simp only [UsbAdapter.ofFlat_eq_records]
    exact records_append (by decide) h ys

/-- Two devices with a dangling text behind them, the same with a ghost without an address between
them, and adapters around a pair that has only its name. -/
theorem ofFlat_written_report :
    BondedDevice.ofFlat [some "00:11", some "Vario", some "CLASSIC", some "AA:BB", none, some "BLE",
        some "dangling"] = [⟨"00:11", some "Vario", .classic⟩, ⟨"AA:BB", none, .ble⟩] ∧
      BondedDevice.ofFlat [some "00:11", some "Vario", none, none, some "ghost", some "BLE",
        some "AA:BB", none, some "BLE"] =
          BondedDevice.ofFlat [some "00:11", some "Vario", none, some "AA:BB", none, some "BLE"] ∧
      BondedDevice.ofFlat [some "00:11", some "Vario", none, some "AA:BB"] =
        BondedDevice.ofFlat [some "00:11", some "Vario", none] ++
          BondedDevice.ofFlat [some "AA:BB"] ∧
      UsbAdapter.ofFlat [some "1027:24577", some "FT232R", some "4292:60000"] =
        [⟨"1027:24577", "FT232R"⟩] ∧
      UsbAdapter.ofFlat [some "1027:24577", some "FT232R", none, some "orphan", some "6790", none] =
        UsbAdapter.ofFlat [some "1027:24577", some "FT232R", some "6790", none] ∧
      UsbAdapter.ofFlat [some "1027:24577", some "FT232R", some "6790", none] =
        UsbAdapter.ofFlat [some "1027:24577", some "FT232R"] ++
          UsbAdapter.ofFlat [some "6790", none] := by
  obtain ⟨written, ghost, cut, adapters, half, cutPairs⟩ := ofFlat_written
  exact ⟨written [(⟨"00:11", some "Vario", .classic⟩, some "CLASSIC"),
      (⟨"AA:BB", none, .ble⟩, some "BLE")] [some "dangling"] (by decide) (by decide),
    ghost [some "00:11", some "Vario", none] [some "AA:BB", none, some "BLE"] (some "ghost")
      (some "BLE") (by decide),
    cut [some "00:11", some "Vario", none] [some "AA:BB"] (by decide),
    adapters [⟨"1027:24577", "FT232R"⟩] [some "4292:60000"] (by decide),
    half [some "1027:24577", some "FT232R"] [some "6790", none] none (some "orphan") (by decide)
      (.inl rfl),
    cutPairs [some "1027:24577", some "FT232R"] [some "6790", none] (by decide)⟩

end Flat

end PortRoster
