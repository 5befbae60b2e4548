import Mathlib.Data.List.Basic
import Mathlib.Data.List.Induction
import Mathlib.Logic.Function.Basic
import PortRoster.Proofs.Document.Toml.Presence
import PortRoster.Proofs.Settings.Written
import PortRoster.Settings.Load
import PortRoster.Settings.Session

/-! # Settings on top of one another

Settings are put on top of one another by five rules: a saved port, a switch and a number of lines
are taken from above where they are there, devices and adapters are kept from both, and help texts
are taken from above unless there are none. Each rule is a monoid, so settings are one, and the
settings that are loaded are those of a *stack* of files: of the texts that can be used, each on top
of those before it. What cannot be used is as good as missing.

* `Settings.merge_assoc`: it does not matter how settings on top of one another are grouped.
* `Settings.load_eq_stack`, `Settings.load_update_missing`: what is loaded, and what may be left
  out.
* `Settings.device_ofToml`: the saved port of a file is the one of its section.
* `Settings.exists_device_stack`: the saved port of a stack is that of the last section.
* `Settings.load_layered`: all of this together, up to the port that a session selects. -/

namespace PortRoster

/-! ### Laws -/

theorem Switches.merge_assoc (s t u : Switches) : (s.merge t).merge u = s.merge (t.merge u) := by
  simp [Switches.merge, Option.or_assoc]

namespace Settings

/-- **It does not matter how settings on top of one another are grouped.** Help texts that are there
hide those below them, so where they come from is a case distinction. -/
theorem merge_assoc (s t u : Settings) : (s.merge t).merge u = s.merge (t.merge u) := by
  have hhelp : (if u.uartHelp.isEmpty then if t.uartHelp.isEmpty then s.uartHelp else t.uartHelp
      else u.uartHelp) =
      if (if u.uartHelp.isEmpty then t.uartHelp else u.uartHelp).isEmpty then s.uartHelp
      else if u.uartHelp.isEmpty then t.uartHelp else u.uartHelp := by
    by_cases hu : u.uartHelp.isEmpty
    · rw [if_pos hu, if_pos hu]
    · rw [if_neg hu, if_neg hu, if_neg hu]
  unfold merge
  rw [Switches.merge_assoc, Option.or_assoc, Option.or_assoc, List.append_assoc, List.append_assoc,
    hhelp]

/-! ### Stacks of files -/

/-- The settings of texts, each on top of those before it. -/
def stack (texts : List String) : Settings := (texts.filterMap ofToml).foldl merge empty

/-- The text of a file, if it can be used. -/
def usableText? (files : Files) (path : String) : Option String :=
  match files path with
  | .text text => if (ofToml text).isSome then some text else none
  | .missing | .unreadable _ => none

/-- The texts of the files that can be used, in the order in which they are put on one another. -/
def usable (files : Files) (globalPath : Option String) : List String :=
  (globalPath.toList ++ [localPath]).filterMap (usableText? files)

variable {files : Files} {globalPath : Option String} {texts : List String} {text : String}

theorem stack_concat (texts : List String) (text : String) :
    stack (texts ++ [text]) = (stack texts).merge ((ofToml text).getD empty) := by
  unfold stack
  rw [List.filterMap_append, List.foldl_append]
  cases h : ofToml text with
  | none => simp [h, merge_empty]
  | some s => simp [h]

theorem readFile_eq_bind (files : Files) (path : String) :
    readFile files path = (usableText? files path).bind ofToml := by
  unfold readFile usableText?
  cases files path with
  | missing => rfl
  | unreadable reason => rfl
  | text text => cases h : ofToml text <;> simp [h]

theorem isSome_of_mem_usable (h : text ∈ usable files globalPath) : (ofToml text).isSome := by
  obtain ⟨path, -, hp⟩ := List.mem_filterMap.1 h
  unfold usableText? at hp
  split at hp
  · split_ifs at hp with hs
    cases hp
    exact hs
  · cases hp
  · cases hp

/-- **What is loaded is the stack of the files that can be used.** -/
theorem load_eq_stack (files : Files) (globalPath : Option String) :
    load files globalPath = stack (usable files globalPath) := by
  have hlayers : (usable files globalPath).filterMap ofToml =
      (globalPath.toList ++ [localPath]).filterMap (readFile files) := by
    rw [usable, List.filterMap_filterMap]
    exact List.filterMap_congr fun path _ => (readFile_eq_bind files path).symm
  have hlast (s : Settings) : ([localPath].filterMap (readFile files)).foldl merge s =
      s.merge ((readFile files localPath).getD empty) := by
    cases h : readFile files localPath <;> simp [h, merge_empty]
  unfold load stack
  rw [hlayers, List.filterMap_append, List.foldl_append, hlast]
  congr 1
  cases globalPath with
  | none => rfl
  | some path => cases h : readFile files path <;> simp [h, empty_merge]

/-- **A file that cannot be used is as good as missing**, wherever it is. -/
theorem load_update_missing {path : String} (h : readFile files path = none) :
    load files globalPath = load (Function.update files path .missing) globalPath := by
  have hread : readFile (Function.update files path .missing) = readFile files := by
    funext other
    by_cases ho : other = path
    · rw [ho, h]
      unfold readFile
      rw [Function.update_self]
    · unfold readFile
      rw [Function.update_of_ne ho]
  unfold load
  rw [hread]

theorem flatMap_stack {α : Type} {list : Settings → List α} (hempty : list empty = [])
    (hmerge : ∀ s t : Settings, list (s.merge t) = list s ++ list t) (texts : List String) :
    list (stack texts) = (texts.filterMap ofToml).flatMap list := by
  induction texts using List.reverseRecOn with
  | nil => exact hempty
  | append_singleton texts text ih =>
    rw [stack_concat, hmerge, ih, List.filterMap_append, List.flatMap_append]
    cases h : ofToml text <;> simp [h, hempty]

/-! ### The saved port -/

/-- The section for the saved port in the text of a settings file. -/
def deviceSection (text : String) : Option Data :=
  match Toml.read text with
  | some (.table rows) => rows.lookup "device"
  | _ => none

end Settings

theorem Field.nullable_of_ne_null {α : Type} {read : Data → Option α} {d : Data} (h : d ≠ .null) :
    Field.nullable read d = (read d).map some := by
  unfold nullable
  split
  · exact absurd rfl h
  · rfl

/-- The saved port is read from these rows: a field that they do not name has its default. -/
structure SavedPort.ReadFrom (rows : List (String × Data)) (s : SavedPort) : Prop where
  kind : (Data.row rows "kind").orElse .disabled (Kind.ofData .toml) = some s.kind
  path : (Data.row rows "path").orElse "" Data.toText = some s.path
  bluetoothMac : (Data.row rows "bluetooth_mac").orElse "" Data.toText = some s.bluetoothMac
  uartLine : (Data.row rows "ioio_uart_id").orElse 0 Data.toWord = some s.uartLine

theorem SavedPort.readFrom_of_ofData {rows : List (String × Data)} {s : SavedPort}
    (h : SavedPort.ofData .toml (.table rows) = some s) : s.ReadFrom rows := by
  simp only [SavedPort.ofData, Data.fields, fieldNames, List.map_cons, List.map_nil, bind,
    Option.bind_eq_some_iff, Option.ite_none_right_eq_some] at h
  obtain ⟨_, ⟨-, hfields⟩, h⟩ := h
  cases hfields
  simp only [Option.bind_eq_some_iff] at h
  obtain ⟨kind, hkind, path, hpath, mac, hmac, line, hline, hs⟩ := h
  cases hs
  exact ⟨hkind, hpath, hmac, hline⟩

namespace Settings

variable {texts : List String} {text : String} {s : Settings}

/-- **The saved port of a file is the one of its section.** A section that is there gives a port,
since no row of a document is null. -/
theorem device_ofToml (h : ofToml text = some s) :
    (deviceSection text = none ∧ s.device = none) ∨
      ∃ d saved, deviceSection text = some d ∧ SavedPort.ofData .toml d = some saved ∧
        s.device = some saved := by
  obtain ⟨d, hread, hd⟩ := Option.bind_eq_some_iff.1 h
  obtain ⟨rows, rfl, hrows⟩ := Toml.exists_rows_of_read hread
  have hsection : deviceSection text = rows.lookup "device" := by
    unfold deviceSection
    rw [hread]
  simp only [ofData, Data.fields, List.map_cons, List.map_nil, bind, Option.bind_eq_some_iff,
    Option.ite_none_right_eq_some] at hd
  obtain ⟨_, ⟨-, hfields⟩, hd⟩ := hd
  cases hfields
  simp only [Option.bind_eq_some_iff] at hd
  obtain ⟨device, hdevice, switches, -, bonded, -, adapters, -, uart, -, hs⟩ := hd
  cases hs
  rw [hsection]
  cases hlookup : rows.lookup "device" with
  | none =>
    simp only [Data.row, hlookup, Field.optional, Option.some.injEq] at hdevice
    exact .inl ⟨rfl, hdevice.symm⟩
  | some d =>
    obtain ⟨_, _, hmem, -⟩ := List.lookup_eq_some_iff.1 hlookup
    have hd : d ≠ .null := hrows ("device", d) (by rw [hmem]; simp)
    simp only [Data.row, hlookup, Field.optional, Field.nullable_of_ne_null hd] at hdevice
    obtain ⟨saved, hsaved, rfl⟩ := Option.map_eq_some_iff.1 hdevice
    exact .inr ⟨d, saved, rfl, hsaved, rfl⟩

/-- **The saved port of a stack is that of the last section.** Without any section there is none. -/
theorem exists_device_stack (h : ∀ text ∈ texts, (ofToml text).isSome) :
    ((∀ text ∈ texts, deviceSection text = none) ∧ (stack texts).device = none) ∨
      ∃ before text after d saved, texts = before ++ text :: after ∧
        deviceSection text = some d ∧ (∀ other ∈ after, deviceSection other = none) ∧
        SavedPort.ofData .toml d = some saved ∧ (stack texts).device = some saved := by
  induction texts using List.reverseRecOn with
  | nil => exact .inl ⟨fun _ hm => absurd hm List.not_mem_nil, rfl⟩
  | append_singleton texts last ih =>
    obtain ⟨s, hs⟩ := Option.isSome_iff_exists.1 (h last (by simp))
    have hdevice : (stack (texts ++ [last])).device = s.device.or (stack texts).device := by
      rw [stack_concat, hs]
      rfl
    rw [hdevice]
    rcases device_ofToml hs with ⟨hnone, hport⟩ | ⟨d, saved, hsome, hd, hport⟩
    · -- The last text has no section, so those before it decide.
      rw [hport, Option.none_or]
      rcases ih fun text hm => h text (by simp [hm]) with
        ⟨hall, hstack⟩ | ⟨before, text, after, d, saved, rfl, hsome, hafter, hd, hstack⟩
      · refine .inl ⟨fun text hm => ?_, hstack⟩
        rcases List.mem_append.1 hm with hm | hm
        · exact hall text hm
        · rw [List.mem_singleton.1 hm, hnone]
      · refine .inr ⟨before, text, after ++ [last], d, saved, by simp, hsome, fun other hm => ?_, hd,
          hstack⟩
        rcases List.mem_append.1 hm with hm | hm
        · exact hafter other hm
        · rw [List.mem_singleton.1 hm, hnone]
    · rw [hport]
      exact .inr ⟨texts, last, [], d, saved, rfl, hsome, fun _ hm => absurd hm List.not_mem_nil, hd,
        rfl⟩

/-! ### Layering -/

/-- The port is saved by the last of the texts that has a section for it; where no text has one, it
is unset. -/
def LastSaved (texts : List String) (saved : SavedPort) : Prop :=
  ((∀ text ∈ texts, deviceSection text = none) ∧ saved = .unset) ∨
    ∃ before text after d, texts = before ++ text :: after ∧ deviceSection text = some d ∧
      (∀ other ∈ after, deviceSection other = none) ∧ SavedPort.ofData .toml d = some saved ∧
      ∀ rows, d = .table rows → saved.ReadFrom rows

theorem lastSaved_stack (h : ∀ text ∈ texts, (ofToml text).isSome) :
    LastSaved texts (stack texts).savedPort := by
  unfold savedPort
  rcases exists_device_stack h with
    ⟨hall, hstack⟩ | ⟨before, text, after, d, saved, htexts, hsome, hafter, hd, hstack⟩
  · rw [hstack]
    exact .inl ⟨hall, rfl⟩
  · rw [hstack]
    refine .inr ⟨before, text, after, d, htexts, hsome, hafter, hd, ?_⟩
    rintro rows rfl
    exact SavedPort.readFrom_of_ofData hd

theorem LastSaved.of_concat {d : Data} {saved : SavedPort} (h : LastSaved (texts ++ [text]) saved)
    (hd : deviceSection text = some d) : SavedPort.ofData .toml d = some saved := by
  rcases h with ⟨hall, -⟩ | ⟨before, last, after, d', htexts, hsome, hafter, hread, -⟩
  · rw [hall text (by simp)] at hd
    cases hd
  · rcases List.eq_nil_or_concat after with rfl | ⟨after', end', rfl⟩
    · obtain ⟨-, hlast⟩ := List.append_inj' htexts rfl
      cases hlast
      rw [hd] at hsome
      cases hsome
      exact hread
    · have htexts' : texts ++ [text] = (before ++ last :: after') ++ [end'] := by
        rw [htexts]
        simp
      obtain ⟨-, hlast⟩ := List.append_inj' htexts' rfl
      cases hlast
      rw [hafter text (by simp)] at hd
      cases hd

/-- **Settings are layered.** Settings on top of one another are a monoid. What is loaded is the
stack of the files that can be used, with all devices and adapters in their order; a file that is no
text, no document or no settings may be left out, whatever is in the others. Each field of the port
that a session selects is the one that the user gives, or else that of the last section for it. -/
theorem load_layered (files : Files) (globalPath : Option String) :
    ((∀ s t u : Settings, (s.merge t).merge u = s.merge (t.merge u)) ∧
      ∀ s : Settings, s.merge empty = s ∧ empty.merge s = s) ∧
    (load files globalPath = stack (usable files globalPath) ∧
      (load files globalPath).bonded =
        ((usable files globalPath).filterMap ofToml).flatMap bonded ∧
      (load files globalPath).adapters =
        ((usable files globalPath).filterMap ofToml).flatMap adapters) ∧
    (∀ path, (∀ text d, files path = .text text → Toml.read text = some d →
        ofData .toml d = none) →
      load files globalPath = load (Function.update files path .missing) globalPath) ∧
    ∀ (given : Overrides) (detected : Capabilities), ∃ saved,
      LastSaved (usable files globalPath) saved ∧
      let session : Session := ⟨load files globalPath, given, detected⟩
      session.device.kind = given.kind.getD saved.kind ∧
      session.device.path = given.path.getD saved.path ∧
      session.device.bluetoothMac = given.bluetoothMac.getD saved.bluetoothMac ∧
      session.device.uartLine = given.uartLine.getD saved.uartLine := by
  have hload := load_eq_stack files globalPath
  refine ⟨⟨merge_assoc, fun s => ⟨s.merge_empty, s.empty_merge⟩⟩, ⟨hload, ?_, ?_⟩, ?_, ?_⟩
  · rw [hload]
    exact flatMap_stack rfl (fun _ _ => rfl) _
  · rw [hload]
    exact flatMap_stack rfl (fun _ _ => rfl) _
  · intro path h
    refine load_update_missing ?_
    unfold readFile
    cases hp : files path with
    | missing => rfl
    | unreadable reason => rfl
    | text text =>
      show (Toml.read text).bind (ofData .toml) = none
      cases hr : Toml.read text with
      | none => rfl
      | some d => exact h text d hp hr
  · intro given detected
    have husable : ∀ text ∈ usable files globalPath, (ofToml text).isSome :=
      fun _ hm => isSome_of_mem_usable hm
    have hsaved := lastSaved_stack husable
    rw [← hload] at hsaved
    exact ⟨_, hsaved, rfl, rfl, rfl, rfl⟩

/-- Two settings files with a section for the saved port. -/
def layeredFiles : Files := fun path =>
  if path = "config.toml" then .text (SavedPort.serial "/dev/ttyS0").toToml
  else if path = localPath then .text (SavedPort.bluetooth .rfcomm "AA:BB").toToml
  else .missing

/-- The port of the local file is selected, on the line that the user gives. Nothing is left of the
port of the global file. -/
theorem load_layered_local :
    (⟨load layeredFiles (some "config.toml"), { uartLine := some 3 }, .none⟩ : Session).device =
      { SavedPort.bluetooth .rfcomm "AA:BB" with uartLine := 3 } := by
  have husable : usable layeredFiles (some "config.toml") =
      [(SavedPort.serial "/dev/ttyS0").toToml] ++
        [(SavedPort.bluetooth .rfcomm "AA:BB").toToml] := by
    simp [usable, usableText?, layeredFiles, localPath, ofToml_toToml]
  obtain ⟨-, -, -, hsession⟩ := load_layered layeredFiles (some "config.toml")
  obtain ⟨saved, hlast, hkind, hpath, hmac, hline⟩ := hsession { uartLine := some 3 } .none
  rw [husable] at hlast
  have hsection : deviceSection (SavedPort.bluetooth .rfcomm "AA:BB").toToml =
      some (SavedPort.bluetooth .rfcomm "AA:BB").toData := by
    rw [deviceSection, SavedPort.read_toToml]
    rfl
  have hsaved := hlast.of_concat hsection
  rw [SavedPort.ofData_toData] at hsaved
  cases hsaved
  rw [SavedPort.mk.injEq]
  exact ⟨hkind, hpath, hmac, hline⟩

end Settings

end PortRoster
