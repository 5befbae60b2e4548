import PortRoster.Proofs.Roster.Agreement
import PortRoster.Proofs.Roster.Atomicity

/-! # Reconciling again

Once a port has been reconciled, it has its entry for good. Later calls only add entries behind it
and move the mark, so the first entry for the port stays the first one, and reconciling the port
again leads back to it, in whatever spelling or under whatever kind for the same value. The port is
what a call is about: the kind alone, or a value and what kind of value it is (`Target`).

* `reconcileLabelled_of_findIdx?`: reconciling selects the first entry for the port.
* `exists_findIdx?_reconcileLabelled`: the entry that reconciling selects is the first for the port.
* `exists_nodup_targets_run`: a run adds one entry at most for each port.
* `reconcileLabelled_stable`: reconciling again leads back to the same entry. -/

namespace PortRoster

/-- What a call is about: a kind that carries no value, or a value of some sort. -/
inductive Target where
  | kind (kind : Kind)
  | value (key : ValueKey) (value : String)
  deriving DecidableEq

/-- The port that a kind and a value stand for. Values are compared in canonical spelling. -/
def Kind.target (kind : Kind) (value : String) : Target :=
  match kind.key with
  | .none => .kind kind
  | key => .value key (key.canonical value)

/-- The port that an entry is for. -/
def Entry.target (e : Entry) : Target := e.kind.target e.value

theorem Kind.target_of_key_eq {kind : Kind} (h : kind.key = .none) (value : String) :
    kind.target value = .kind kind := by
  unfold target
  rw [h]

theorem Kind.target_of_key_ne {kind : Kind} (h : kind.key ≠ .none) (value : String) :
    kind.target value = .value kind.key (kind.key.canonical value) := by
  unfold target
  split
  · contradiction
  · rfl

/-- A kind and a value stand for the same port as others if the kind is the same and carries no
value, or if the values are of one sort and have one canonical spelling. -/
theorem Kind.target_eq_iff {kind kind' : Kind} {value value' : String} :
    kind'.target value' = kind.target value ↔
      kind.key = .none ∧ kind' = kind ∨
      kind.key ≠ .none ∧ kind'.key = kind.key ∧
        kind.key.canonical value' = kind.key.canonical value := by
  by_cases hk : kind.key = .none <;> by_cases hk' : kind'.key = .none
  · simp [target_of_key_eq hk, target_of_key_eq hk', hk]
  · have hne : kind' ≠ kind := fun h => hk' (h ▸ hk)
    simp [target_of_key_eq hk, target_of_key_ne hk', hk, hne]
  · have hne : kind'.key ≠ kind.key := fun h => hk (h ▸ hk')
    simp [target_of_key_ne hk, target_of_key_eq hk', hk, hne]
  · rw [target_of_key_ne hk, target_of_key_ne hk', Target.value.injEq]
    constructor
    · rintro ⟨hkey, hvalue⟩
      exact .inr ⟨hk, hkey, by rw [← hvalue, hkey]⟩
    · rintro (⟨h, -⟩ | ⟨-, hkey, hvalue⟩)
      · exact absurd h hk
      · exact ⟨hkey, by rw [hkey, hvalue]⟩

namespace Entry

theorem addresses_eq_of_target_eq {kind kind' : Kind} {value value' : String}
    (h : kind'.target value' = kind.target value) :
    addresses kind' value' = addresses kind value := by
  funext e
  rcases Kind.target_eq_iff.1 h with ⟨hk, rfl⟩ | ⟨hk, hkey, hvalue⟩
  · simp [addresses, hk]
  · unfold addresses
    rw [hkey]
    split
    · contradiction
    · rw [hvalue]

theorem addresses_of_target_eq {e e' : Entry} (hc : e'.kind.key.canonical e'.value = e'.value)
    (h : e'.target = e.target) : e'.addresses e.kind e.value := by
  have haddr : addresses e.kind e.value = addresses e'.kind e'.value :=
    addresses_eq_of_target_eq h.symm
  rw [haddr]
  unfold addresses
  split
  · exact beq_self_eq_true _
  · rw [hc]
    simp

theorem addresses_ofItem_placeholder (kind : Kind) (value : String) (label : Option String)
    (position : Nat) : (ofItem (placeholder kind value label) position).addresses kind value := by
  unfold addresses
  split <;> simp [ofItem, placeholder, ValueKey.canonical_canonical]

end Entry

namespace Roster

variable {r : Roster} {kind : Kind} {value : String}

/-! ### The first entry for a port -/

theorem getElem?_unmarked (r : Roster) (i : Fin r.size) :
    r.unmarked[(i : Nat)]? = some (r.entryAt i).unmarked := by
  have hi : (i : Nat) < r.entries.length := i.isLt
  rw [unmarked, List.getElem?_map, List.getElem?_eq_getElem hi]
  rfl

theorem findIdx?_unmarked (r : Roster) {p : Entry → Bool} (hp : ∀ e : Entry, p e.unmarked = p e) :
    r.unmarked.findIdx? p = (r.position? p).map Fin.val := by
  rw [unmarked, List.findIdx?_map, show p ∘ Entry.unmarked = p from funext hp,
    List.findIdx?_eq_map_findFinIdx?_val]
  rfl

/-- **Reconciling selects the first entry for the port.** It adds nothing, and the rest of the entry
is as it was. -/
theorem reconcileLabelled_of_findIdx? {i : Nat} {u : Entry}
    (h : r.unmarked.findIdx? (Entry.addresses kind value) = some i) (hu : r.unmarked[i]? = some u)
    (label : Option String) :
    (r.reconcileLabelled kind value label).1.unmarked = r.unmarked ∧
      (r.reconcileLabelled kind value label).1.entries[i]? = some { u with selected := true } ∧
      (r.reconcileLabelled kind value label).1.marked = [{ u with selected := true }] ∧
      (r.reconcileLabelled kind value label).2 = u.id := by
  rw [r.findIdx?_unmarked fun _ => rfl] at h
  obtain ⟨j, hj, rfl⟩ := Option.map_eq_some_iff.1 h
  have hrec : r.reconcileLabelled kind value label = (r.selectAt j, (r.entryAt j).id) := by
    unfold reconcileLabelled
    rw [hj]
    rfl
  rw [r.getElem?_unmarked] at hu
  cases hu
  rw [hrec]
  exact ⟨r.unmarked_selectAt j, r.getElem?_selectAt j, r.marked_selectAt j, rfl⟩

/-- **The entry that reconciling selects is the first one for the port**, in the list after the
call. -/
theorem exists_findIdx?_reconcileLabelled (r : Roster) (kind : Kind) (value : String)
    (label : Option String) :
    ∃ (i : Nat) (u : Entry),
      (r.reconcileLabelled kind value label).1.unmarked.findIdx? (Entry.addresses kind value) =
        some i ∧
      (r.reconcileLabelled kind value label).1.unmarked[i]? = some u ∧
      (r.reconcileLabelled kind value label).1.entries[i]? = some { u with selected := true } ∧
      (r.reconcileLabelled kind value label).1.marked = [{ u with selected := true }] ∧
      (r.reconcileLabelled kind value label).2 = u.id := by
  cases hfind : r.unmarked.findIdx? (Entry.addresses kind value) with
  | some i =>
    obtain ⟨hi, -⟩ := List.findIdx?_eq_some_iff_getElem.1 hfind
    have hu := List.getElem?_eq_getElem hi
    obtain ⟨hunmarked, hentry, hmarked, hid⟩ := reconcileLabelled_of_findIdx? hfind hu label
    exact ⟨i, _, by rw [hunmarked, hfind], by rw [hunmarked, hu], hentry, hmarked, hid⟩
  | none =>
    have hrec : r.reconcileLabelled kind value label =
        (r.pushSelected (placeholder kind value label), .encode kind r.size) := by
      rw [r.findIdx?_unmarked fun _ => rfl, Option.map_eq_none_iff] at hfind
      unfold reconcileLabelled
      rw [hfind]
    have hnew := Entry.addresses_ofItem_placeholder kind value label r.size
    refine ⟨r.size, .ofItem (placeholder kind value label) r.size, ?_⟩
    rw [hrec, unmarked_pushSelected, List.findIdx?_append, hfind, ← r.length_unmarked]
    refine ⟨?_, List.getElem?_concat_length, ?_, ?_, rfl⟩
    · rw [r.length_unmarked, List.findIdx?_singleton, if_pos hnew]
      simp
    · rw [r.length_unmarked]
      exact r.getElem?_pushSelected _
    · rw [r.length_unmarked]
      exact r.marked_pushSelected _

/-! ### Runs -/

theorem unmarked_prefix_run (r : Roster) (ops : List Operation) :
    r.unmarked <+: (r.run ops).unmarked :=
  unmarked_prefix_of_reaches (reaches_run r ops)

theorem Change.unmarked_cases {r' : Roster} (h : Change r r') :
    r'.unmarked = r.unmarked ∨ ∃ e : Entry, r'.unmarked = r.unmarked ++ [e] ∧
      e.kind.key.canonical e.value = e.value ∧
      ∀ e' ∈ r.unmarked, ¬ e'.addresses e.kind e.value := by
  obtain ⟨es, hes, hlen, hnew⟩ := h.exists_unmarked
  have hitems := h.unmarked_eq
  rw [hes] at hitems
  have hentries := List.append_cancel_left hitems
  rcases es with - | ⟨e, - | ⟨e', es⟩⟩
  · exact .inl (by rw [hes, List.append_nil])
  · have he : e ∈ r.newEntries (r'.items.drop r.size) := by
      rw [← hentries]
      exact List.mem_singleton_self e
    exact .inr ⟨e, hes, (coherent_entry_of_mem_newEntries he).2, hnew e (List.mem_singleton_self e)⟩
  · simp at hlen

/-- **A run adds one entry at most for each port**: for each kind that carries no value, and for each
value of some sort in canonical spelling. -/
theorem exists_nodup_targets_run (r : Roster) (ops : List Operation) :
    ∃ added : List Entry, (r.run ops).unmarked = r.unmarked ++ added ∧
      (added.map Entry.target).Nodup ∧
      ∀ e ∈ added, e.kind.key.canonical e.value = e.value := by
  induction ops using List.reverseRecOn with
  | nil => exact ⟨[], (List.append_nil _).symm, List.nodup_nil, nofun⟩
  | append_singleton ops op ih =>
    obtain ⟨added, hadded, hnodup, hcanonical⟩ := ih
    rw [run_append]
    show ∃ added', (op.perform (r.run ops)).unmarked = _ ∧ _
    rcases (change_perform op (r.run ops)).unmarked_cases with h | ⟨e, h, hc, hnew⟩
    · exact ⟨added, h.trans hadded, hnodup, hcanonical⟩
    · rw [hadded] at h hnew
      have hfresh : e.target ∉ added.map Entry.target := by
        intro hmem
        obtain ⟨e', he', htarget⟩ := List.mem_map.1 hmem
        exact hnew e' (List.mem_append_right _ he')
          (Entry.addresses_of_target_eq (hcanonical e' he') htarget)
      refine ⟨added ++ [e], by rw [h, List.append_assoc], ?_, ?_⟩
      · rw [List.map_append, List.map_singleton, ← List.concat_eq_append]
        exact List.Nodup.concat hfresh hnodup
      · intro e' he'
        rcases List.mem_append.1 he' with he' | he'
        · exact hcanonical e' he'
        · rwa [List.mem_singleton.1 he']

/-- **Reconciling again leads back to the same entry.** After a port has been reconciled, in any
state, and after any further calls, each way to reconcile the same port adds nothing, reports the
same identifier, and leaves the mark on the entry that was marked the first time, in the same place
and otherwise unchanged. In a run, one entry at most is added for each port. -/
theorem reconcileLabelled_stable (r : Roster) (kind : Kind) (value : String)
    (label : Option String) :
    (∃ (i : Nat) (s : Entry),
      (r.reconcileLabelled kind value label).1.entries[i]? = some s ∧
      (r.reconcileLabelled kind value label).1.marked = [s] ∧
      (r.reconcileLabelled kind value label).2 = s.id ∧
      ∀ (ops : List Operation) (r' : Roster),
        (r.reconcileLabelled kind value label).1.run ops = r' →
        ∀ (kind' : Kind) (value' : String) (label' : Option String),
          kind'.target value' = kind.target value →
          (r'.reconcileLabelled kind' value' label').1.unmarked = r'.unmarked ∧
          (r'.reconcileLabelled kind' value' label').2 = s.id ∧
          (r'.reconcileLabelled kind' value' label').1.entries[i]? = some s ∧
          (r'.reconcileLabelled kind' value' label').1.marked = [s]) ∧
    ∀ ops : List Operation, ∃ added : List Entry, (r.run ops).unmarked = r.unmarked ++ added ∧
      (added.map Entry.target).Nodup := by
  refine ⟨?_, fun ops => ?_⟩
  · obtain ⟨i, u, hfirst, hu, hentry, hmarked, hid⟩ :=
      exists_findIdx?_reconcileLabelled r kind value label
    refine ⟨i, { u with selected := true }, hentry, hmarked, hid, ?_⟩
    rintro ops r' rfl kind' value' label' htarget
    have hprefix := unmarked_prefix_run (r.reconcileLabelled kind value label).1 ops
    have hfirst' := hprefix.findIdx?_eq_some hfirst
    rw [← Entry.addresses_eq_of_target_eq htarget] at hfirst'
    have hu' : ((r.reconcileLabelled kind value label).1.run ops).unmarked[i]? = some u := by
      obtain ⟨rest, hrest⟩ := hprefix
      rw [← hrest, List.getElem?_append_left (List.getElem?_eq_some_iff.1 hu).1, hu]
    obtain ⟨hunmarked, hentry', hmarked', hid'⟩ := reconcileLabelled_of_findIdx? hfirst' hu' label'
    exact ⟨hunmarked, hid', hentry', hmarked'⟩
  · obtain ⟨added, hadded, hnodup, -⟩ := exists_nodup_targets_run r ops
    exact ⟨added, hadded, hnodup⟩

/-- A device that is not there gets one placeholder, under whatever kind and spelling it is named
again after other calls. -/
theorem reconcileLabelled_stable_used :
    Kind.bleHm10.target "EE:FF" = Kind.rfcomm.target " ee:Ff" ∧
      ∃ s, (used.reconcileLabelled .rfcomm " ee:Ff" none).2 = s.id ∧
        (((used.reconcileLabelled .rfcomm " ee:Ff" none).1.run
          [.reconcile .serial "COM3:", .select (.encode .tcpClient 1)]).reconcileLabelled
            .bleHm10 "EE:FF" (some "Vario")).1.marked = [s] := by
  have htarget : Kind.bleHm10.target "EE:FF" = Kind.rfcomm.target " ee:Ff" := by decide
  obtain ⟨⟨i, s, -, -, hid, hagain⟩, -⟩ := reconcileLabelled_stable used .rfcomm " ee:Ff" none
  obtain ⟨-, -, -, hmarked⟩ := hagain _ _ rfl .bleHm10 "EE:FF" (some "Vario") htarget
  exact ⟨htarget, s, hid, hmarked⟩

end Roster

end PortRoster
