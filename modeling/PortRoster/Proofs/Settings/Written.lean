import PortRoster.Proofs.Document.Json
import PortRoster.Proofs.Document.Toml.Section
import PortRoster.Settings.Basic
import PortRoster.Settings.Session

/-! # Saved ports as texts

A saved port is written as a section of a settings file, or as a JSON text. Both can be read again,
and give back the port, whatever characters stand in its path and its address. A settings file that
holds the section alone says nothing else.

* `Settings.ofToml_toToml`: the section is read back.
* `SavedPort.read_toJson`: so is the JSON text. -/

namespace PortRoster

namespace SavedPort

variable (s : SavedPort)

theorem map_fst_rows : s.rows.map Prod.fst = fieldNames := rfl

theorem fitRows_rows : Toml.FitRows s.rows := by
  have hnames : ∀ name ∈ fieldNames, Toml.IsBare name := by decide
  intro row hrow
  refine ⟨hnames row.1 (s.map_fst_rows ▸ List.mem_map_of_mem hrow), ?_⟩
  simp only [rows, List.mem_cons, List.not_mem_nil, or_false] at hrow
  rcases hrow with rfl | rfl | rfl | rfl
  · trivial
  · trivial
  · trivial
  · exact Nat.lt_trans s.uartLine.toNat_lt (by decide)

theorem read_toToml : Toml.read s.toToml = some (.table [("device", s.toData)]) := by
  rw [toToml, Toml.read_writeSection (by decide) s.fitRows_rows (s.map_fst_rows ▸ by decide),
    s.data_rows]

theorem kept_toData : s.toData.Kept := by
  have hlow : -(Nat.pow 2 63 : Nat) ≤ (s.uartLine.toNat : Int) := by omega
  have hhigh : (s.uartLine.toNat : Int) < (Nat.pow 2 64 : Nat) :=
    Int.ofNat_lt.2 (Nat.lt_trans s.uartLine.toNat_lt (by decide))
  exact ⟨trivial, trivial, trivial, ⟨hlow, hhigh⟩, trivial⟩

/-- **A port is read back from its JSON text**, with or without a line end behind it. -/
theorem read_toJson :
    (Json.read s.toJson).bind (ofData .json) = some s ∧
      (Json.read (s.toJson ++ "\n")).bind (ofData .json) = some s := by
  obtain ⟨hplain, hline⟩ := Json.read_pretty s.kept_toData
  unfold toJson
  rw [hplain, hline]
  exact ⟨ofData_toData .json s, ofData_toData .json s⟩

end SavedPort

/-- **A port is read back from its section**, and no other settings are. -/
theorem Settings.ofToml_toToml (s : SavedPort) :
    ofToml s.toToml = some { empty with device := some s } := by
  have hdevice : Field.optional (SavedPort.ofData .toml) (.present s.toData) = some (some s) := by
    show (SavedPort.ofData .toml s.toData).map some = _
    rw [SavedPort.ofData_toData]
    rfl
  rw [ofToml, s.read_toToml]
  simp [ofData, Data.fields, Data.namedOnce, Data.row, List.lookup_cons, hdevice, Field.orElse,
    empty]

end PortRoster
