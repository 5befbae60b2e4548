import PortRoster.CommandLine.Program
import PortRoster.Proofs.Roster.Mark

/-! # Calls are atomic

All calls do the same. They look for the first entry with some property, and select it. Where there
is none, some calls add a placeholder and select that one, and the others fail. So a call that fails
has not touched the list, and a call that succeeds leaves one mark, at the entry that it reports.
This holds in every state, also in one with several marks or with repeated identifiers.

* `call_eq`: every call is one search, and at most one placeholder.
* `perform_of_failed`: a call that fails leaves the list as it was, with its marks.
* `exists_marked_of_call`: a call that succeeds marks the entry that it reports.
* `perform_atomic`: what a call leaves alone, and what choosing without asking does. -/

namespace PortRoster

namespace Roster

variable (r : Roster)

theorem getElem?_selectAt (i : Fin r.size) :
    (r.selectAt i).entries[(i : Nat)]? = some { r.entryAt i with selected := true } := by
  have hi : (i : Nat) < r.entries.length := i.isLt
  rw [selectAt, List.getElem?_mapIdx, List.getElem?_eq_getElem hi, Option.map_some,
    decide_eq_true rfl]
  rfl

theorem getElem?_pushSelected (item : Item) :
    (r.pushSelected item).entries[r.size]? =
      some { Entry.ofItem item r.size with selected := true } := by
  rw [pushSelected, getElem?_selectAt]
  simp [entryAt, push, append, size]

end Roster

namespace Operation

/-- What a call looks for. -/
def finds : Operation → Entry → Bool
  | select id => fun e => e.id = id
  | reconcile kind value | reconcileLabelled kind value _ => Entry.addresses kind value
  | selectSaved saved =>
    match saved.kind.key with
    | .none => fun e => e.kind == saved.kind
    | .path => Entry.addresses saved.kind saved.path
    | .bluetoothMac => Entry.addresses saved.kind saved.bluetoothMac
    | .uartIndex => fun e => e.kind == .ioioUart && e.value == saved.uartText

/-- What a call adds where it finds nothing. -/
def placeholder? : Operation → Option Item
  | select _ => none
  | reconcile kind value => some (placeholder kind value none)
  | reconcileLabelled kind value label => some (placeholder kind value label)
  | selectSaved saved =>
    match saved.kind.key with
    | .path => some (placeholder saved.kind saved.path none)
    | .bluetoothMac => some (placeholder saved.kind saved.bluetoothMac none)
    | .none | .uartIndex => none

variable {op : Operation} {r : Roster} {id : PortId}

/-! ### One search, one placeholder -/

/-- The outcome of a search, or that of adding the placeholder where nothing is found. -/
def orPlaceholder (searched : Roster × Option PortId) (placeholder? : Option Item) :
    Roster × Option PortId :=
  match searched, placeholder? with
  | (r, none), some p => (r.pushSelected p, some (.encode p.kind r.size))
  | searched, _ => searched

theorem orPlaceholder_none (searched : Roster × Option PortId) :
    orPlaceholder searched none = searched := by
  obtain ⟨r, _ | id⟩ := searched <;> rfl

theorem call_select (id : PortId) (r : Roster) :
    (select id).call r = r.selectFirst fun e => e.id = id := by
  unfold Roster.selectFirst
  rcases Roster.position?_cases (r := r) (fun e => e.id = id) with ⟨i, hi, -, h⟩ | ⟨-, h⟩
  · have hselect : r.select id = (r.selectAt i, true) := by
      unfold Roster.select Roster.indexOf?
      rw [h]
      rfl
    simp [call, hselect, h, Roster.selectIndex, of_decide_eq_true hi]
  · have hselect : r.select id = (r, false) := by
      unfold Roster.select Roster.indexOf?
      rw [h]
    simp [call, hselect, h]

theorem call_reconcileLabelled (kind : Kind) (value : String) (label : Option String)
    (r : Roster) : (reconcileLabelled kind value label).call r =
      orPlaceholder (r.selectFirst (Entry.addresses kind value))
        (some (placeholder kind value label)) := by
  simp only [call, Roster.reconcileLabelled, Roster.selectFirst]
  cases r.position? (Entry.addresses kind value) <;> rfl

/-- **Every call is one search, and at most one placeholder.** -/
theorem call_eq (op : Operation) (r : Roster) :
    op.call r = orPlaceholder (r.selectFirst op.finds) op.placeholder? := by
  cases op with
  | select id => rw [call_select]; exact (orPlaceholder_none _).symm
  | reconcile kind value => exact call_reconcileLabelled kind value none r
  | reconcileLabelled kind value label => exact call_reconcileLabelled kind value label r
  | selectSaved saved =>
    show r.selectSaved saved = _
    cases hk : saved.kind.key with
    | none | uartIndex =>
      simp only [Roster.selectSaved, finds, placeholder?, hk]
      exact (orPlaceholder_none _).symm
    | path =>
      simp only [Roster.selectSaved, finds, placeholder?, hk]
      exact call_reconcileLabelled saved.kind saved.path none r
    | bluetoothMac =>
      simp only [Roster.selectSaved, finds, placeholder?, hk]
      exact call_reconcileLabelled saved.kind saved.bluetoothMac none r

/-- A call selects the first entry that it finds. Where it finds none, it adds its placeholder, or
else it fails and hands back what it was given. -/
theorem call_cases (op : Operation) (r : Roster) :
    (∃ i : Fin r.size, op.finds (r.entryAt i) ∧
      op.call r = (r.selectAt i, some (r.entryAt i).id)) ∨
    (∀ e ∈ r.entries, ¬ op.finds e) ∧
      ((∃ p, op.placeholder? = some p ∧
        op.call r = (r.pushSelected p, some (.encode p.kind r.size))) ∨
      op.placeholder? = none ∧ op.call r = (r, none)) := by
  rw [call_eq]
  rcases Roster.selectFirst_cases (r := r) op.finds with ⟨i, hi, -, h⟩ | ⟨hn, h⟩
  · exact .inl ⟨i, hi, by rw [h]; rfl⟩
  · rw [h]
    cases hp : op.placeholder? with
    | some p => exact .inr ⟨hn, .inl ⟨p, rfl, rfl⟩⟩
    | none => exact .inr ⟨hn, .inr ⟨rfl, rfl⟩⟩

theorem failed_iff :
    (op.call r).2 = none ↔ (∀ e ∈ r.entries, ¬ op.finds e) ∧ op.placeholder? = none := by
  rcases call_cases op r with ⟨i, hi, h⟩ | ⟨hn, ⟨p, hp, h⟩ | ⟨hp, h⟩⟩
  · rw [h]
    exact iff_of_false nofun fun hno => hno.1 _ (r.entryAt_mem i) hi
  · rw [h, hp]
    exact iff_of_false nofun fun hno => nomatch hno.2
  · rw [h]
    exact iff_of_true rfl ⟨hn, hp⟩

/-- **A call that fails leaves the list as it was**, with its marks. -/
theorem perform_of_failed (h : (op.call r).2 = none) : op.perform r = r := by
  rcases call_cases op r with ⟨i, -, hi⟩ | ⟨-, ⟨p, -, hp⟩ | ⟨-, hn⟩⟩
  · rw [hi] at h
    cases h
  · rw [hp] at h
    cases h
  · rw [perform, hn]

theorem fst_select_of_failed (h : (r.select id).2 = false) : (r.select id).1 = r := by
  have hfailed : ((select id).call r).2 = none := by simp [call, h]
  exact perform_of_failed hfailed

/-! ### What a call does -/

theorem table_perform (op : Operation) (r : Roster) : (op.perform r).table = r.table := by
  rcases call_cases op r with ⟨i, -, h⟩ | ⟨-, ⟨p, -, h⟩ | ⟨-, h⟩⟩ <;> rw [perform, h] <;> rfl

theorem unmarked_perform (op : Operation) (r : Roster) :
    (op.perform r).unmarked = r.unmarked ∨
      ∃ p, op.placeholder? = some p ∧
        (op.perform r).unmarked = r.unmarked ++ [Entry.ofItem p r.size] := by
  rcases call_cases op r with ⟨i, -, h⟩ | ⟨-, ⟨p, hp, h⟩ | ⟨-, h⟩⟩
  · rw [perform, h]
    exact .inl (r.unmarked_selectAt i)
  · rw [perform, h]
    exact .inr ⟨p, hp, r.unmarked_pushSelected p⟩
  · rw [perform, h]
    exact .inl rfl

/-- **A call that succeeds marks the entry that it reports**, and no other. -/
theorem exists_marked_of_call (h : (op.call r).2 = some id) :
    ∃ (i : Nat) (s : Entry), (op.perform r).entries[i]? = some s ∧
      (op.perform r).marked = [s] ∧ s.id = id := by
  rcases call_cases op r with ⟨i, -, hi⟩ | ⟨-, ⟨p, -, hp⟩ | ⟨-, hn⟩⟩
  · rw [hi] at h
    cases h
    rw [perform, hi]
    exact ⟨_, _, r.getElem?_selectAt i, r.marked_selectAt i, rfl⟩
  · rw [hp] at h
    cases h
    rw [perform, hp]
    exact ⟨_, _, r.getElem?_pushSelected p, r.marked_pushSelected p, rfl⟩
  · rw [hn] at h
    cases h

theorem key_of_placeholder?_selectSaved {saved : SavedPort} {p : Item}
    (h : (selectSaved saved).placeholder? = some p) :
    saved.kind.key = .path ∨ saved.kind.key = .bluetoothMac := by
  cases hk : saved.kind.key with
  | path => exact .inl rfl
  | bluetoothMac => exact .inr rfl
  | none | uartIndex => simp [placeholder?, hk] at h

end Operation

/-! ### Choosing without asking -/

namespace CommandLine

variable (r : Roster)

theorem fst_pick : (pick r true).1 = r := by
  unfold pick
  cases r.selected? <;> rfl

theorem pick_eq_of_snd {outcome : Except PickError PortId} (h : (pick r true).2 = outcome) :
    pick r true = (r, outcome) :=
  Prod.ext (fst_pick r) h

theorem pick_eq_ok_iff {id : PortId} :
    (pick r true).2 = .ok id ↔ ∃ s, r.marked.head? = some s ∧ s.id = id := by
  unfold pick
  rw [Roster.selected?_eq_head?]
  cases r.marked.head? <;> simp

theorem pick_eq_error_iff {e : PickError} :
    (pick r true).2 = .error e ↔ r.marked = [] ∧ e = .nothingSelected := by
  unfold pick
  rw [Roster.selected?_eq_head?]
  cases r.marked <;> simp [eq_comm]

end CommandLine

namespace Roster

open CommandLine

/-- **Calls are atomic.** In every state, whatever is called: the table and the entries stay as they
are but for the marks, and one entry at most is added, at the end. A call fails where it finds
nothing and has no placeholder to add, and then even the marks stay. After a call that succeeds, one
entry is marked, and it has the identifier that the call reports. For a saved port, only one with a
path or an address is added. Choosing without asking changes nothing. It gives the identifier of the
first marked entry; where there is none, the command line counts as one that cannot be used. -/
theorem perform_atomic (r : Roster) :
    (∀ op : Operation,
      (op.perform r).table = r.table ∧
      (∃ added, (op.perform r).unmarked = r.unmarked ++ added ∧ added.length ≤ 1) ∧
      ((op.call r).2 = none ↔ (∀ e ∈ r.entries, ¬ op.finds e) ∧ op.placeholder? = none) ∧
      ((op.call r).2 = none → op.perform r = r) ∧
      ∀ id, (op.call r).2 = some id →
        ∃ (i : Nat) (s : Entry), (op.perform r).entries[i]? = some s ∧
          (op.perform r).marked = [s] ∧ s.id = id) ∧
    (∀ id, (r.select id).2 = false → (r.select id).1 = r) ∧
    (∀ saved, (r.selectSaved saved).2 = none → (r.selectSaved saved).1 = r) ∧
    (∀ saved, ((Operation.selectSaved saved).perform r).size ≠ r.size →
      saved.kind.key = .path ∨ saved.kind.key = .bluetoothMac) ∧
    (CommandLine.pick r true).1 = r ∧
    (∀ id, (CommandLine.pick r true).2 = .ok id ↔ ∃ s, r.marked.head? = some s ∧ s.id = id) ∧
    (∀ e, (CommandLine.pick r true).2 = .error e ↔ r.marked = [] ∧ e = .nothingSelected) ∧
    ∀ l json quiet, r.marked = [] → CommandLine.select l r json true quiet =
      .usage (failureLine (PickError.nothingSelected.message l)) := by
  refine ⟨fun op => ?_, fun id => Operation.fst_select_of_failed, fun saved h => ?_,
    fun saved hsize => ?_, fst_pick r, fun _ => pick_eq_ok_iff r, fun _ => pick_eq_error_iff r,
    fun l json quiet hnone => ?_⟩
  · refine ⟨op.table_perform r, ?_, Operation.failed_iff, Operation.perform_of_failed,
      fun id => Operation.exists_marked_of_call⟩
    rcases op.unmarked_perform r with h | ⟨p, -, h⟩
    · exact ⟨[], by rw [h, List.append_nil], Nat.zero_le _⟩
    · exact ⟨_, h, Nat.le_refl _⟩
  · have hfailed : ((Operation.selectSaved saved).call r).2 = none := h
    exact Operation.perform_of_failed hfailed
  · rcases (Operation.selectSaved saved).unmarked_perform r with h | ⟨p, hp, -⟩
    · rw [← length_unmarked, h, length_unmarked] at hsize
      exact absurd rfl hsize
    · exact Operation.key_of_placeholder?_selectSaved hp
  · rw [CommandLine.select, pick_eq_of_snd r ((pick_eq_error_iff r).2 ⟨hnone, rfl⟩)]

/-- A state that no build gives: both entries are marked, and both have one identifier. -/
def doubled : Roster :=
  ⟨.basic, [⟨⟨.serial, "COM1:", "COM1:", none⟩, .encode .serial 0, true⟩,
    ⟨⟨.serial, "COM2:", "COM2:", none⟩, .encode .serial 0, true⟩]⟩

/-- In a list with two marks, calls that fail leave both, and one that succeeds leaves one. -/
theorem perform_atomic_doubled :
    (doubled.selectSaved (.ofKind .internal)).1 = doubled ∧
      (doubled.select (.encode .serial 1)).1 = doubled ∧
      ∃ r id, doubled.selectSaved (.serial "COM3:") = (r, some id) ∧
        ∃ s, r.marked = [s] ∧ s.id = id := by
  obtain ⟨hcalls, hselect, hsaved, -⟩ := perform_atomic doubled
  refine ⟨hsaved _ (by decide), hselect _ (by decide), _, _, rfl, ?_⟩
  obtain ⟨-, -, -, -, hmarked⟩ := hcalls (.selectSaved (.serial "COM3:"))
  obtain ⟨-, s, -, hs, hid⟩ := hmarked _ rfl
  exact ⟨s, hs, hid⟩

end Roster

end PortRoster
