import PortRoster.Source.Basic

/-! # USB-serial adapters

The adapters that a driver reports, given as records or as one flat list of two texts for each
adapter: an opaque id and the name of the product.

* `UsbAdapter.ofFlat_toFlat`: a flat list gives back the records it was written from. -/

namespace PortRoster

/-- An adapter that a driver reports. -/
structure UsbAdapter where
  id : String
  name : String
  deriving DecidableEq, Repr

namespace UsbAdapter

/-- Reads a flat list. A pair that lacks a half is left out, and so is a single text at the end. -/
def ofFlat : List (Option String) → List UsbAdapter
  | some id :: some name :: rest => ⟨id, name⟩ :: ofFlat rest
  | _ :: _ :: rest => ofFlat rest
  | _ => []

/-- The flat form of a list of adapters. -/
def toFlat (adapters : List UsbAdapter) : List (Option String) :=
  adapters.flatMap fun a => [some a.id, some a.name]

/-- The adapter as a source reports it. -/
def discovery (a : UsbAdapter) : Discovery where
  kind := .usbSerial
  value := a.id
  label := some a.name

/-- **A flat list gives back the records it was written from.** -/
theorem ofFlat_toFlat (adapters : List UsbAdapter) : ofFlat (toFlat adapters) = adapters := by
  induction adapters with
  | nil => rfl
  | cons a as ih =>
    unfold toFlat at ih ⊢
    simp [ofFlat, ih]

end UsbAdapter

/-- The source that reports adapters. -/
def Source.adapters (adapters : List UsbAdapter) : Source where
  family := .usbSerial
  discover := .ok (adapters.map UsbAdapter.discovery)

end PortRoster
