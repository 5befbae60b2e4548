import PortRoster.Kind
import PortRoster.Text.Numeral

/-! # Port identifiers

An identifier is a 32-bit word: the number of the kind in the upper half, a serial number in the
lower half. Serial numbers above 65535 lose their upper bits.

A word that comes back from a list widget is either an identifier or, when it is below the number of
fixed kinds, a position among them.

* `kind_encode`, `serial_encode`: both halves are read back.
* `ext_raw`: an identifier is known by its word. -/

namespace PortRoster

/-- The number of serial numbers. -/
def serialBound : Nat := 65536

/-- The kind in the upper half of a word, if there is a kind with that number. -/
def kindOf? (raw : UInt32) : Option Kind := Kind.ofDiscriminant? (raw.toNat / serialBound)

/-- A word whose upper half is the number of a kind. -/
structure PortId where
  raw : UInt32
  /-- The upper half is the number of a kind. -/
  known : (kindOf? raw).isSome

namespace PortId

theorem ext_raw {a b : PortId} (h : a.raw = b.raw) : a = b := by
  cases a; cases b; cases h; rfl

instance : DecidableEq PortId := fun a b =>
  if h : a.raw = b.raw then isTrue (ext_raw h) else isFalse fun e => h (e ▸ rfl)

/-- The word for a kind and a serial number. -/
def pack (kind : Kind) (serial : Nat) : UInt32 :=
  UInt32.ofNat (kind.discriminant * serialBound + serial % serialBound)

theorem toNat_pack (kind : Kind) (serial : Nat) :
    (pack kind serial).toNat = kind.discriminant * serialBound + serial % serialBound := by
  have h := kind.discriminant_lt
  simp only [pack, serialBound, UInt32.toNat_ofNat']
  omega

theorem kindOf?_pack (kind : Kind) (serial : Nat) : kindOf? (pack kind serial) = some kind := by
  have h : (pack kind serial).toNat / serialBound = kind.discriminant := by
    rw [toNat_pack]; unfold serialBound; omega
  rw [kindOf?, h, Kind.ofDiscriminant?_discriminant]

/-- The identifier for a kind and a serial number. -/
def encode (kind : Kind) (serial : Nat) : PortId :=
  ⟨pack kind serial, by rw [kindOf?_pack]; rfl⟩

/-- The kind of an identifier. -/
def kind (id : PortId) : Kind := (kindOf? id.raw).get id.known

/-- The serial number of an identifier. -/
def serial (id : PortId) : Nat := id.raw.toNat % serialBound

/-- The hexadecimal text of a word. -/
def textOf (raw : UInt32) : String := String.ofList ('0' :: 'x' :: Text.hexadecimal 8 raw.toNat)

/-- The text of an identifier. -/
def text (id : PortId) : String := textOf id.raw

/-- Identifiers are ordered as words. -/
def order (a b : PortId) : Ordering := compare a.raw b.raw

/-- **The kind is read back.** -/
@[simp]
theorem kind_encode (k : Kind) (serial : Nat) : (encode k serial).kind = k := by
  simp [kind, encode, kindOf?_pack]

/-- **The serial number is read back, without its upper bits.** -/
@[simp]
theorem serial_encode (k : Kind) (serial : Nat) :
    (encode k serial).serial = serial % serialBound := by
  simp only [PortId.serial, encode, toNat_pack]
  unfold serialBound
  omega

end PortId

/-- What a word from a list widget stands for. -/
inductive RawForm where
  /-- A position among the fixed kinds. -/
  | offset (position : Nat)
  /-- An identifier. -/
  | encoded (raw : UInt32)
  deriving DecidableEq, Repr

/-- The form of a word, for a table with `size` fixed kinds. -/
def RawForm.classify (raw : UInt32) (size : Nat) : RawForm :=
  if raw.toNat < size then .offset raw.toNat else .encoded raw

/-- A text that is no number of an identifier, without its blanks and underscores. -/
structure BadPortId where
  input : String
  cause : Text.NumeralError
  deriving DecidableEq, Repr

/-- The wording of the failure. -/
def BadPortId.message (e : BadPortId) : String :=
  "Invalid port id '" ++ e.input ++ "': " ++ e.cause.message

namespace PortId

/-- The text without blanks around it and without underscores. -/
def bare (cs : List Char) : List Char := (Text.trim cs).filter (· != '_')

/-- The number that a bare text denotes: hexadecimal after `0x` or `0X`, else decimal. -/
def readRaw : List Char → Except Text.NumeralError UInt32
  | '0' :: 'x' :: cs | '0' :: 'X' :: cs => Text.readWord 16 cs
  | cs => Text.readWord 10 cs

/-- Reads the word of an identifier. -/
def parseRaw (s : String) : Except BadPortId UInt32 :=
  let cs := bare s.toList
  (readRaw cs).mapError fun e => ⟨String.ofList cs, e⟩

end PortId

end PortRoster
