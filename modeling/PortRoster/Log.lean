import PortRoster.Terminal.Style
import PortRoster.Text.Cut

/-! # Log records

A record has a level and a text, and is written by an area of the program. It is shown on one line
after a mark for its level; the further lines of a longer text are set in.

* `Area.name_injective`: no two areas have one name. -/

namespace PortRoster.Log

open Terminal

/-- How important a record is. The last levels are the least important. -/
inductive Level where
  | error
  | warn
  | info
  | debug
  | trace
  deriving DecidableEq, Repr

namespace Level

/-- All levels, from the most to the least important. -/
def all : List Level := [error, warn, info, debug, trace]

/-- The place of a level among all. -/
def rank : Level → Nat
  | error => 1
  | warn => 2
  | info => 3
  | debug => 4
  | trace => 5

/-- The name of a level as the limit of a log. -/
def name : Level → String
  | error => "error"
  | warn => "warn"
  | info => "info"
  | debug => "debug"
  | trace => "trace"

/-- The mark in front of a record, five characters wide. -/
def mark : Level → String
  | error => "ERROR"
  | warn => "WARN "
  | info => "INFO "
  | debug => "DEBUG"
  | trace => "TRACE"

/-- The style of a mark. -/
def style : Level → Style
  | error => [1, 31]
  | warn => [33]
  | info => [32]
  | debug => [34]
  | trace => [36]

end Level

/-- A part of the program that writes records. -/
inductive Area where
  | program
  | settings
  | commands
  | select
  | capability
  | roster
  | builder
  | bluetooth
  deriving DecidableEq, Repr

/-- The name of an area. It begins with the name of the area around it. -/
def Area.name : Area → String
  | program => "portreg"
  | settings => "portreg::config"
  | commands => "portreg::commands"
  | select => "portreg::commands::select"
  | capability => "portreg::capability"
  | roster => "portreg::registry"
  | builder => "portreg::registry::builder"
  | bluetooth => "portreg::transport::bluetooth"

/-- **No two areas have one name.** -/
theorem Area.name_injective {a b : Area} (h : a.name = b.name) : a = b := by
  revert h
  cases a <;> cases b <;> decide

/-- One record. -/
structure Record where
  level : Level
  area : Area
  text : String
  deriving DecidableEq, Repr

/-- How far the further lines of a text are set in. -/
def margin : Nat := 4

/-- A record as it is shown. -/
def Record.line (r : Record) : StyledText :=
  [⟨.bracket, "["⟩, ⟨r.level.style, r.level.mark⟩, ⟨.bracket, "]"⟩,
    bare (" " ++ Text.setIn margin r.text ++ "\n")]

end PortRoster.Log
