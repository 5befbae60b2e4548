import PortRoster.Proofs.Text.Decimal
import PortRoster.SavedPort

/-! # Saved ports and the values of entries

A list holds a saved port as a kind and a value, which is the text of the field that the kind uses.
The port is made again from the two, and the fields that the kind does not use are lost on the way
(`inUse`). A value is kept as it is where it is a path or an address. As the number of a line it is
read leniently, with a sign and zeros in front, or as line 0 if it is no such number. So only the
canonical decimal of a line is kept.

* `ofValue_value`: a port from its own kind and value is the port without the fields not in use.
* `value_ofValue`, `value_ofValue_line`: the value of a port that was made from a value.
* `readLine_eq`, `readLine_eq_zero`: the line that a value names.
* `ofValue_read_back`: all of it for both ways. -/

namespace PortRoster.SavedPort

/-- The port with nothing but the field that its kind uses; the others are as they are where nothing
was saved. -/
def inUse (s : SavedPort) : SavedPort where
  kind := s.kind
  path := if s.kind.key = .path then s.path else unset.path
  bluetoothMac := if s.kind.key = .bluetoothMac then s.bluetoothMac else unset.bluetoothMac
  uartLine := if s.kind.key = .uartIndex then s.uartLine else unset.uartLine

variable {kind : Kind}

@[simp]
theorem kind_ofValue (kind : Kind) (value : String) : (ofValue kind value).kind = kind := by
  unfold ofValue
  split <;> rfl

theorem path_ofValue (h : kind.key = .path) (value : String) :
    (ofValue kind value).path = value := by
  unfold ofValue
  rw [h]

theorem bluetoothMac_ofValue (h : kind.key = .bluetoothMac) (value : String) :
    (ofValue kind value).bluetoothMac = value := by
  unfold ofValue
  rw [h]

theorem uartLine_ofValue (h : kind.key = .uartIndex) (value : String) :
    (ofValue kind value).uartLine = readLine value := by
  unfold ofValue
  rw [h]

theorem readLine_decimalText (n : UInt32) : readLine (Text.decimalText n.toNat) = n :=
  readLine_uartText (ioioUart n)

theorem uartText_ofValue (h : kind.key = .uartIndex) (n : UInt32) :
    (ofValue kind (Text.decimalText n.toNat)).uartText = Text.decimalText n.toNat := by
  rw [uartText, uartLine_ofValue h, readLine_decimalText]

/-! ### From a port to its value and back -/

/-- **A port that is made from its own kind and value** is the port without the fields that are not
in use. -/
theorem ofValue_value (s : SavedPort) : ofValue s.kind (s.value.getD "") = s.inUse := by
  cases h : s.kind.key with
  | uartIndex =>
    have hline : readLine s.uartText = s.uartLine := s.readLine_uartText
    simp [ofValue, value, inUse, h, hline, ofKind, unset]
  | none | path | bluetoothMac => simp [ofValue, value, inUse, h, ofKind, unset]

/-! ### From a value to its port and back -/

theorem value_ofValue_none (h : kind.key = .none) (v : String) : (ofValue kind v).value = none := by
  simp [value, h]

theorem value_ofValue (h : kind.key = .path ∨ kind.key = .bluetoothMac) (v : String) :
    (ofValue kind v).value = some v := by
  rcases h with h | h
  · simp [value, h, path_ofValue h]
  · simp [value, h, bluetoothMac_ofValue h]

theorem value_ofValue_line (h : kind.key = .uartIndex) (v : String) :
    (ofValue kind v).value = some (Text.decimalText (readLine v).toNat) := by
  simp [value, h, uartText, uartLine_ofValue h]

/-- **The number that a value denotes is the line that it names**, if the number fits in 32 bits. -/
theorem readLine_eq {v : String} {n : Nat} (hn : n < Text.wordBound)
    (h : Text.IsUnsigned 10 v.toList n) : (readLine v).toNat = n := by
  have hword : (UInt32.ofNat n).toNat = n := UInt32.toNat_ofNat_of_lt' hn
  rw [← hword] at h
  rw [readLine, (Text.readWord_eq_ok_iff (by decide)).2 h, hword]

/-- **A value that denotes no such number names line 0.** -/
theorem readLine_eq_zero {v : String}
    (h : ∀ n < Text.wordBound, ¬ Text.IsUnsigned 10 v.toList n) : readLine v = 0 := by
  unfold readLine
  split
  · next w hw => exact absurd ((Text.readWord_eq_ok_iff (by decide)).1 hw) (h _ w.toNat_lt)
  · rfl

theorem decimalText_readLine_eq_iff {v : String} :
    Text.decimalText (readLine v).toNat = v ↔
      ∃ n < Text.wordBound, Text.IsCanonicalDecimal v.toList n := by
  have hcanonical (n : Nat) : Text.IsCanonicalDecimal v.toList n ↔ Text.decimalText n = v := by
    rw [Text.isCanonicalDecimal_iff, Text.decimalText, ← String.toList_inj, String.toList_ofList,
      eq_comm]
  simp only [hcanonical]
  constructor
  · exact fun h => ⟨_, (readLine v).toNat_lt, h⟩
  · rintro ⟨n, hn, rfl⟩
    have hword : (UInt32.ofNat n).toNat = n := UInt32.toNat_ofNat_of_lt' hn
    rw [← hword, readLine_decimalText]

/-- **Ports and the values of entries are exchanged without loss, but for what is not in use.** A
port is made again from its kind and value, with the fields not in use as they are where nothing was
saved. A path or an address is read back as it was, whatever text it is. Of a line the number is
read back that the text denotes, in decimal and after a plus sign that may be left out, or else 0;
so the text is kept if it is the canonical decimal of a number in 32 bits, and only then. -/
theorem ofValue_read_back :
    (∀ s : SavedPort, ofValue s.kind (s.value.getD "") = s.inUse) ∧
    ∀ (kind : Kind) (v : String),
      (kind.key = .path ∨ kind.key = .bluetoothMac → (ofValue kind v).value = some v) ∧
      (kind.key = .none → (ofValue kind v).value = none) ∧
      (kind = .ioioUart →
        (∀ n < Text.wordBound, Text.IsUnsigned 10 v.toList n →
          (ofValue kind v).value = some (Text.decimalText n)) ∧
        ((∀ n < Text.wordBound, ¬ Text.IsUnsigned 10 v.toList n) →
          (ofValue kind v).value = some (Text.decimalText 0)) ∧
        ((ofValue kind v).value = some v ↔
          ∃ n < Text.wordBound, Text.IsCanonicalDecimal v.toList n)) := by
  refine ⟨ofValue_value, fun kind v => ⟨(value_ofValue · v), (value_ofValue_none · v), ?_⟩⟩
  rintro rfl
  have hline : (ofValue .ioioUart v).value = some (Text.decimalText (readLine v).toNat) :=
    value_ofValue_line rfl v
  rw [hline]
  refine ⟨fun n hn h => by rw [readLine_eq hn h], fun h => ?_, ?_⟩
  · rw [readLine_eq_zero h]
    rfl
  · rw [Option.some.injEq]
    exact decimalText_readLine_eq_iff

/-- The id of a USB adapter is kept, a sign and zeros in front of a line are not, and the first
number that does not fit in 32 bits names line 0. -/
theorem ofValue_read_back_line :
    (Kind.usbSerial.key = .path ∧ (ofValue .usbSerial "1027:24577").value = some "1027:24577") ∧
      (Kind.tcpClient.key = .none ∧ (ofValue .tcpClient "1027").value = none) ∧
      (7 < Text.wordBound ∧ Text.IsUnsigned 10 "+007".toList 7 ∧
        (ofValue .ioioUart "+007").value = some "7") ∧
      (∀ n < Text.wordBound, ¬ Text.IsUnsigned 10 "4294967296".toList n) ∧
        (ofValue .ioioUart "4294967296").value = some "0" := by
  obtain ⟨-, hback⟩ := ofValue_read_back
  have hplus : Text.IsUnsigned 10 "+007".toList 7 := by
    have hread : Text.readUnsigned 10 Text.wordBound "+007".toList = .ok 7 := by decide
    exact ((Text.readUnsigned_eq_ok_iff (by decide) (by decide)).1 hread).2
  have hlarge : ∀ n < Text.wordBound, ¬ Text.IsUnsigned 10 "4294967296".toList n := by
    intro n hn h
    have hread := (Text.readUnsigned_eq_ok_iff (by decide) (by decide)).2 ⟨hn, h⟩
    have hfails : Text.readUnsigned 10 Text.wordBound "4294967296".toList = .error .tooLarge := by
      decide
    rw [hfails] at hread
    cases hread
  obtain ⟨hpath, -, -⟩ := hback .usbSerial "1027:24577"
  obtain ⟨-, hnone, -⟩ := hback .tcpClient "1027"
  obtain ⟨hnumber, -, -⟩ := (hback .ioioUart "+007").2.2 rfl
  obtain ⟨-, hzero, -⟩ := (hback .ioioUart "4294967296").2.2 rfl
  exact ⟨⟨rfl, hpath (.inl rfl)⟩, ⟨rfl, hnone rfl⟩,
    ⟨by decide, hplus, (hnumber 7 (by decide) hplus).trans (by decide)⟩, hlarge,
    (hzero hlarge).trans (by decide)⟩

end PortRoster.SavedPort
