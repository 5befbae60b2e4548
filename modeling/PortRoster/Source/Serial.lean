import PortRoster.Source.Basic
import PortRoster.Text.Cut
import PortRoster.Text.Numeral

/-! # Serial ports

Serial ports known by the path of their device, and the fixed range of names `COM1:`, `COM2:`, … of
hosts that cannot search.

* `serialDisplayName_dev`: a path below `/dev/` is shown without it. -/

namespace PortRoster

/-- The short name of a serial device: its path without `/dev/` in front. -/
def serialDisplayName (path : String) : String :=
  match Text.afterStart? "/dev/".toList path.toList with
  | some rest => String.ofList rest
  | none => path

/-- **A path below `/dev/` is shown without it.** -/
theorem serialDisplayName_dev (name : String) : serialDisplayName ("/dev/" ++ name) = name := by
  have h : Text.afterStart? "/dev/".toList ("/dev/" ++ name).toList = some name.toList :=
    Text.afterStart?_eq_some_iff.2 String.toList_append
  simp only [serialDisplayName, h, String.ofList_toList]

namespace Source

/-- Serial devices with the given paths, shown by their short names. -/
def devicePaths (family : Family) (paths : List String) : Source where
  family
  discover := .ok (paths.map fun p =>
    { kind := .serial, value := p, label := some (serialDisplayName p) })

/-- The name of the serial port with a number. -/
def comName (n : Nat) : String := "COM" ++ Text.decimalText n ++ ":"

/-- The number of serial ports on a host that cannot search, where no other is given. -/
def comCount : Nat := 10

/-- The serial ports with the numbers from 1 to `count`. -/
def comPorts (count : Nat) : Source where
  family := .serial
  discover := .ok ((List.range count).map fun i => { kind := .serial, value := comName (i + 1) })

end Source

end PortRoster
