import PortRoster.CommandLine.Program
import PortRoster.Proofs.Settings.Written

/-! # What is printed can be loaded

The program prints a chosen port as a section of a settings file, or as a JSON text, and both are
read back as the port that they were printed for.

* `select_read_back`: what a settings file and a JSON text are read as, and that these are the texts
  that the program prints. -/

namespace PortRoster

namespace CommandLine

/-- **What is printed can be loaded.** A settings file with the section of a port gives this port
and no other settings, and the JSON text of a port gives this port. The program prints the one or
the other for the port that is chosen. -/
theorem select_read_back (s : SavedPort) :
    (∀ files path, files path = .text s.toToml →
      Settings.readFile files path = some { Settings.empty with device := some s }) ∧
    ((Json.read s.toJson).bind (SavedPort.ofData .json) = some s ∧
      (Json.read (s.toJson ++ "\n")).bind (SavedPort.ofData .json) = some s) ∧
    ∀ l r r' nonInteractive quiet id, pick r nonInteractive = (r', .ok id) →
      r'.toSaved id.raw = some s →
      (select l r false nonInteractive quiet).stdout = s.toToml ∧
      (select l r true nonInteractive quiet).stdout = s.toJson ++ "\n" := by
  refine ⟨?_, s.read_toJson, ?_⟩
  · intro files path hfile
    unfold Settings.readFile
    rw [hfile]
    exact Settings.ofToml_toToml s
  · intro l r r' nonInteractive quiet id hpick hsaved
    constructor <;> simp [select, hpick, hsaved, Outcome.success]

end CommandLine

end PortRoster
