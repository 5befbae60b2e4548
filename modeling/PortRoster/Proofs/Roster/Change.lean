import PortRoster.Proofs.Roster.View
import PortRoster.Roster.Builder

/-! # Changes of a roster

A call selects an entry, adds a placeholder and selects it, or does nothing; settling the saved port
in a stage of a build is a call too. A roster that is built or used is changed in no other way but
that a stage adds the entries for its items, so what these two `Move`s keep, every roster keeps.

* `change_perform`: what a call can do to a roster.
* `exists_unmarked_run`: what a run of calls adds.
* `exists_marked_reconcileLabelled`: a port that was reconciled is the one that is selected.
* `reaches_build`, `reaches_run`: what is built or used comes about by moves alone. -/

namespace PortRoster

namespace Roster

variable {r : Roster}

/-! ### Searching and reconciling -/

theorem position?_cases (p : Entry → Bool) :
    (∃ i : Fin r.size, p (r.entryAt i) ∧ (∀ j < i, ¬ p (r.entryAt j)) ∧ r.position? p = some i) ∨
      (∀ e ∈ r.entries, ¬ p e) ∧ r.position? p = none := by
  unfold position?
  cases h : r.entries.findFinIdx? p with
  | none => exact .inr ⟨List.findFinIdx?_eq_none_iff.1 h, rfl⟩
  | some i =>
    obtain ⟨hp, hj⟩ := List.findFinIdx?_eq_some_iff.1 h
    exact .inl ⟨i, hp, hj, rfl⟩

theorem selectFirst_cases (p : Entry → Bool) :
    (∃ i : Fin r.size, p (r.entryAt i) ∧ (∀ j < i, ¬ p (r.entryAt j)) ∧
      r.selectFirst p = (r.selectAt i, some (r.entryAt i).id)) ∨
      (∀ e ∈ r.entries, ¬ p e) ∧ r.selectFirst p = (r, none) := by
  unfold selectFirst
  rcases position?_cases (r := r) p with ⟨i, hp, hj, h⟩ | ⟨hp, h⟩
  · exact .inl ⟨i, hp, hj, by rw [h]; rfl⟩
  · exact .inr ⟨hp, by rw [h]⟩

theorem reconcileLabelled_cases (kind : Kind) (value : String) (label : Option String) :
    (∃ i : Fin r.size, (r.entryAt i).addresses kind value ∧
      (∀ j < i, ¬ (r.entryAt j).addresses kind value) ∧
      r.reconcileLabelled kind value label = (r.selectAt i, (r.entryAt i).id)) ∨
      (∀ e ∈ r.entries, ¬ e.addresses kind value) ∧
        r.reconcileLabelled kind value label =
          (r.pushSelected (placeholder kind value label), .encode kind r.size) := by
  unfold reconcileLabelled
  rcases position?_cases (r := r) (Entry.addresses kind value) with ⟨i, hp, hj, h⟩ | ⟨hp, h⟩
  · exact .inl ⟨i, hp, hj, by rw [h]; rfl⟩
  · exact .inr ⟨hp, by rw [h]⟩

/-- **A port that was reconciled is the one that is selected.** -/
theorem exists_marked_reconcileLabelled (kind : Kind) (value : String) (label : Option String) :
    ∃ s, (r.reconcileLabelled kind value label).1.marked = [s] ∧ s.addresses kind value := by
  rcases reconcileLabelled_cases (r := r) kind value label with ⟨i, hp, -, h⟩ | ⟨-, h⟩
  · exact ⟨{ r.entryAt i with selected := true }, by rw [h, marked_selectAt], hp⟩
  · refine ⟨_, by rw [h, marked_pushSelected], ?_⟩
    unfold Entry.addresses
    split <;> simp [Entry.ofItem, placeholder, ValueKey.canonical_canonical]

/-! ### Calls -/

/-- What a call can make of a roster: nothing, a move of the mark, or a placeholder for a port that
no entry is for. -/
inductive Change (r : Roster) : Roster → Prop
  | same : Change r r
  | mark (i : Fin r.size) : Change r (r.selectAt i)
  | add (kind : Kind) (value : String) (label : Option String)
      (h : ∀ e ∈ r.entries, ¬ e.addresses kind value) :
      Change r (r.pushSelected (placeholder kind value label))

theorem change_selectFirst (p : Entry → Bool) : Change r (r.selectFirst p).1 := by
  rcases selectFirst_cases (r := r) p with ⟨i, -, -, h⟩ | ⟨-, h⟩
  · rw [h]; exact .mark i
  · rw [h]; exact .same

theorem change_reconcileLabelled (kind : Kind) (value : String) (label : Option String) :
    Change r (r.reconcileLabelled kind value label).1 := by
  rcases reconcileLabelled_cases (r := r) kind value label with ⟨i, -, -, h⟩ | ⟨hp, h⟩
  · rw [h]; exact .mark i
  · rw [h]; exact .add kind value label hp

theorem change_selectSaved (saved : SavedPort) : Change r (r.selectSaved saved).1 := by
  unfold selectSaved
  split
  · exact change_selectFirst _
  · exact change_reconcileLabelled _ _ _
  · exact change_reconcileLabelled _ _ _
  · exact change_selectFirst _

/-- **What a call can do.** -/
theorem change_perform (op : Operation) (r : Roster) : Change r (op.perform r) := by
  cases op with
  | select id =>
    show Change r (r.select id).1
    unfold select
    cases r.indexOf? id with
    | none => exact .same
    | some i => exact .mark i
  | reconcile kind value => exact change_reconcileLabelled kind value none
  | reconcileLabelled kind value label => exact change_reconcileLabelled kind value label
  | selectSaved saved => exact change_selectSaved saved

theorem Change.exists_unmarked {r' : Roster} (h : Change r r') :
    ∃ es : List Entry, r'.unmarked = r.unmarked ++ es ∧ es.length ≤ 1 ∧
      ∀ e ∈ es, ∀ e' ∈ r.unmarked, ¬ e'.addresses e.kind e.value := by
  cases h with
  | same => exact ⟨[], (List.append_nil _).symm, Nat.zero_le _, fun _ he => by cases he⟩
  | mark i =>
    refine ⟨[], ?_, Nat.zero_le _, fun _ he => by cases he⟩
    rw [unmarked_selectAt, List.append_nil]
  | add kind value label h =>
    refine ⟨_, r.unmarked_pushSelected _, Nat.le_refl _, ?_⟩
    intro e he e' he'
    obtain ⟨d, hd, rfl⟩ := List.mem_map.1 he'
    rw [List.mem_singleton.1 he]
    show ¬ d.addresses kind (kind.key.canonical (kind.key.canonical value))
    rw [Entry.addresses_canonical, Entry.addresses_canonical]
    exact h d hd

/-- **What a run of calls adds.** There is one entry at most for each call, and none is for a port
that an entry is for already. -/
theorem exists_unmarked_run (r : Roster) (ops : List Operation) :
    ∃ es : List Entry, (r.run ops).unmarked = r.unmarked ++ es ∧ es.length ≤ ops.length ∧
      ∀ e ∈ es, ∀ e' ∈ r.unmarked, ¬ e'.addresses e.kind e.value := by
  induction ops generalizing r with
  | nil => exact ⟨[], (List.append_nil _).symm, Nat.le_refl _, fun _ he => by cases he⟩
  | cons op ops ih =>
    obtain ⟨one, hone, hlen, hnew⟩ := (change_perform op r).exists_unmarked
    obtain ⟨more, hmore, hlen', hnew'⟩ := ih (op.perform r)
    refine ⟨one ++ more, ?_, ?_, ?_⟩
    · show ((op.perform r).run ops).unmarked = _
      rw [hmore, hone, List.append_assoc]
    · rw [List.length_append, List.length_cons]
      omega
    · intro e he e' he'
      rcases List.mem_append.1 he with he | he
      · exact hnew e he e' he'
      · exact hnew' e he e' (by rw [hone]; exact List.mem_append_left _ he')

theorem size_run_le (r : Roster) (ops : List Operation) :
    (r.run ops).size ≤ r.size + ops.length := by
  obtain ⟨es, h, hlen, -⟩ := exists_unmarked_run r ops
  rw [← length_unmarked, h, List.length_append, length_unmarked]
  omega

/-! ### Settling a saved port -/

theorem change_settleFixed (saved : SavedPort) : Change r (r.settleFixed saved) := by
  unfold settleFixed
  split
  · exact .same
  · exact change_selectFirst _

theorem change_settleSerial (saved : SavedPort) : Change r (r.settleSerial saved) := by
  unfold settleSerial
  split
  · exact change_reconcileLabelled _ _ _
  · exact .same

theorem change_settleBluetooth (nameFor : String → Option String) (saved : SavedPort) :
    Change r (r.settleBluetooth nameFor saved) := by
  unfold settleBluetooth
  split
  · exact change_reconcileLabelled _ _ _
  · exact .same

theorem change_settleUsb (saved : SavedPort) : Change r (r.settleUsb saved) := by
  unfold settleUsb
  split
  · exact change_reconcileLabelled _ _ _
  · exact .same

theorem change_addUart (found : List Discovery) (saved : SavedPort) :
    Change (r.pushAll (found.map Discovery.item)) (r.addUart found saved) := by
  unfold addUart
  cases r.savedLine? found saved with
  | none => exact .same
  | some id =>
    simp only [select]
    cases (r.pushAll (found.map Discovery.item)).indexOf? id with
    | none => exact .same
    | some i => exact .mark i

/-! ### Moves -/

/-- What happens to a roster while it is built or used: entries for new items are added at the end
in some order, or the mark moves. -/
inductive Move : Roster → Roster → Prop
  | add (r : Roster) (items : List Item) (es : List Entry) (h : es.Perm (r.newEntries items)) :
      Move r (r.append es)
  | mark (r : Roster) (i : Fin r.size) : Move r (r.selectAt i)

/-- The second roster comes about from the first by moves. -/
abbrev Reaches : Roster → Roster → Prop := Relation.ReflTransGen Move

theorem reaches_pushAll (items : List Item) : r.Reaches (r.pushAll items) :=
  .single (.add r items _ (.refl _))

theorem reaches_addSerial (found : List Discovery) : r.Reaches (r.addSerial found) :=
  .single (.add r _ _ (List.mergeSort_perm _ _))

theorem Change.reaches {r' : Roster} (h : Change r r') : r.Reaches r' := by
  cases h with
  | same => exact .refl
  | mark i => exact .single (.mark r i)
  | add kind value label h =>
    rw [pushSelected]
    refine .tail ?_ (.mark _ _)
    rw [push_eq_pushAll]
    exact reaches_pushAll _

/-- **What is used comes about by moves alone.** -/
theorem reaches_run (r : Roster) (ops : List Operation) : r.Reaches (r.run ops) := by
  induction ops generalizing r with
  | nil => exact .refl
  | cons op ops ih => exact (change_perform op r).reaches.trans (ih _)

end Roster

namespace Builder

open Roster

variable (b : Builder) (saved : SavedPort)

theorem reaches_fixedStage : (Roster.empty b.table).Reaches (b.fixedStage saved) :=
  (reaches_pushAll _).trans (change_settleFixed saved).reaches

theorem reaches_serialStage : (b.fixedStage saved).Reaches (b.serialStage saved) :=
  (reaches_addSerial _).trans (change_settleSerial saved).reaches

theorem reaches_bluetoothStage : (b.serialStage saved).Reaches (b.bluetoothStage saved) :=
  (reaches_pushAll _).trans (change_settleBluetooth _ saved).reaches

theorem reaches_usbStage : (b.bluetoothStage saved).Reaches (b.usbStage saved) :=
  (reaches_pushAll _).trans (change_settleUsb saved).reaches

theorem reaches_usbStage_of_fixedStage : (b.fixedStage saved).Reaches (b.usbStage saved) :=
  (b.reaches_serialStage saved).trans <| (b.reaches_bluetoothStage saved).trans <|
    b.reaches_usbStage saved

theorem reaches_build_of_fixedStage : (b.fixedStage saved).Reaches (b.build saved) :=
  (b.reaches_usbStage_of_fixedStage saved).trans <|
    (reaches_pushAll _).trans (change_addUart _ saved).reaches

/-- **What is built comes about by moves alone.** -/
theorem reaches_build : (Roster.empty b.table).Reaches (b.build saved) :=
  (b.reaches_fixedStage saved).trans (b.reaches_build_of_fixedStage saved)

end Builder

end PortRoster
