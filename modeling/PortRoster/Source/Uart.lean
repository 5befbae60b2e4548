import PortRoster.Source.Basic
import PortRoster.Text.Numeral

/-! # UART lines

The UART lines of an IOIO board: their number, and a help text for each of the first lines. -/

namespace PortRoster

/-- The label of a line. -/
def uartLabel (line : Nat) : String := "IOIO UART " ++ Text.decimalText line

/-- The line as a source reports it. -/
def uartDiscovery (help : List String) (line : Nat) : Discovery where
  kind := .ioioUart
  value := Text.decimalText line
  label := some (uartLabel line)
  help := help[line]?

/-- The source that reports `count` lines, the line `i` with the help text `help[i]`. -/
def Source.uartLines (count : Nat) (help : List String) : Source where
  family := .uart
  discover := .ok ((List.range count).map (uartDiscovery help))

end PortRoster
