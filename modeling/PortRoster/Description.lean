import PortRoster.Catalogue
import PortRoster.Entry

/-! # Descriptions of entries

The label of an entry in a language, and its description, which also shows the value. -/

namespace PortRoster

/-- The key of the message for a kind. -/
def Kind.messageKey (k : Kind) : String := "kind." ++ k.name

namespace Item

/-- The label in a language. Only ports without a value have a label in the catalogue. -/
def displayLabel (l : Locale) (i : Item) : String :=
  if i.kind.carriesValue ∨ i.value ≠ "" then i.label
  else (Catalogue.text? l i.kind.messageKey).getD i.label

/-- The label already says the value: the value is empty or ends with the label, or the port is a
UART line. -/
def labelSaysValue (label : String) (i : Item) : Bool :=
  i.kind.key == .uartIndex || i.value == "" || Text.endsWith label.toList i.value.toList

/-- The label, with the value behind it unless the label says it already. -/
def describe (l : Locale) (i : Item) : String :=
  let label := i.displayLabel l
  if i.labelSaysValue label then label else label ++ " (" ++ i.value ++ ")"

end Item

end PortRoster
