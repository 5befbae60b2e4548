import PortRoster.PortId
import PortRoster.Proofs.Text.NumericOrder

/-! # Identifiers as words

A kind and a serial number make a word, and the word gives both back, but for what the serial number
has above its lower 16 bits. So identifiers are as many as there are pairs of a kind and a serial
number of 16 bits, and they are ordered as these pairs. The words that are no identifiers are those
whose upper half is the number of no kind.

A serial number of 64 bits is cut twice, to 32 bits and then to 16. The first cut changes nothing
that the second one keeps (`raw_encode`).

* `encode_kind_serial`: an identifier is made of its kind and its serial number.
* `encode_eq_encode_iff`: which identifiers are the same.
* `order_encode`: identifiers are ordered by kind, and then by serial number.
* `encode_correspondence`: words, identifiers and pairs of a kind and a serial number. -/

namespace PortRoster

namespace PortId

theorem kindOf?_raw (id : PortId) : kindOf? id.raw = some id.kind := (Option.some_get _).symm

theorem toNat_raw (id : PortId) :
    id.raw.toNat = id.kind.discriminant * serialBound + id.serial := by
  have h : id.kind.discriminant = id.raw.toNat / serialBound :=
    Kind.ofDiscriminant?_eq_some_iff.1 id.kindOf?_raw
  unfold serial
  rw [h]
  exact (Nat.div_add_mod' _ _).symm

theorem encode_kind_serial (id : PortId) : encode id.kind id.serial = id := by
  refine ext_raw (UInt32.toNat_inj.1 ?_)
  have hserial : id.serial % serialBound = id.serial := Nat.mod_mod _ _
  show (pack id.kind id.serial).toNat = id.raw.toNat
  rw [toNat_pack, toNat_raw, hserial]

/-- **Identifiers are the same** when their kinds are and their serial numbers agree in 16 bits. -/
theorem encode_eq_encode_iff {k₁ k₂ : Kind} {m n : Nat} :
    encode k₁ m = encode k₂ n ↔ k₁ = k₂ ∧ m % serialBound = n % serialBound := by
  constructor
  · intro h
    have hkind := congrArg kind h
    have hserial := congrArg serial h
    rw [kind_encode, kind_encode] at hkind
    rw [serial_encode, serial_encode] at hserial
    exact ⟨hkind, hserial⟩
  · rintro ⟨rfl, h⟩
    refine ext_raw ?_
    show pack k₁ m = pack k₁ n
    rw [pack, pack, h]

/-- **Identifiers are ordered by the numbers of their kinds**, and then by serial number. -/
theorem order_encode (k₁ k₂ : Kind) (m n : Nat) :
    order (encode k₁ m) (encode k₂ n) =
      (compare k₁.discriminant k₂.discriminant).then
        (compare (m % serialBound) (n % serialBound)) := by
  have hbound (i : Nat) : i % serialBound < serialBound := Nat.mod_lt i (by decide)
  calc order (encode k₁ m) (encode k₂ n)
      = compare (pack k₁ m).toNat (pack k₂ n).toNat :=
        UInt32.compare_eq_toNat_compare_toNat _ _
    _ = compare (serialBound * k₁.discriminant + m % serialBound)
          (serialBound * k₂.discriminant + n % serialBound) := by
        rw [toNat_pack, toNat_pack, Nat.mul_comm, Nat.mul_comm k₂.discriminant]
    _ = _ := Text.compare_mul_add (hbound m) (hbound n)

/-! ### The halves of a word -/

/-- The word of an identifier in bits. The serial number is cut to a word before its lower half is
taken. -/
theorem raw_encode (k : Kind) (s : UInt64) :
    (encode k s.toNat).raw = UInt32.ofNat k.discriminant <<< 16 ||| s.toUInt32 &&& 0xFFFF := by
  have hk := k.discriminant_lt
  have hlow : s.toUInt32.toNat &&& 0xFFFF = s.toNat % serialBound := by
    rw [Nat.and_two_pow_sub_one_eq_mod _ 16, UInt64.toNat_toUInt32]
    unfold serialBound
    omega
  have hhigh : (UInt32.ofNat k.discriminant <<< 16).toNat = k.discriminant <<< 16 := by
    simp only [UInt32.toNat_shiftLeft, UInt32.toNat_ofNat', UInt32.reduceToNat, Nat.reduceMod,
      Nat.shiftLeft_eq]
    omega
  refine UInt32.toNat_inj.1 ?_
  calc (encode k s.toNat).raw.toNat
      = k.discriminant <<< 16 + s.toNat % serialBound := by
        rw [Nat.shiftLeft_eq]
        exact toNat_pack _ _
    _ = k.discriminant <<< 16 ||| s.toNat % serialBound :=
        Nat.shiftLeft_add_eq_or_of_lt (Nat.mod_lt _ (by decide)) _
    _ = _ := by rw [UInt32.toNat_or, hhigh, UInt32.toNat_and, ← hlow]; rfl

theorem kindOf?_eq_shiftRight (raw : UInt32) :
    kindOf? raw = Kind.ofDiscriminant? (raw >>> 16).toUInt16.toNat := by
  have h : (raw >>> 16).toUInt16.toNat = raw.toNat / serialBound := by
    have hraw := raw.toNat_lt
    simp only [UInt32.toNat_toUInt16, UInt32.toNat_shiftRight, UInt32.reduceToNat, Nat.reduceMod,
      Nat.shiftRight_eq_div_pow]
    unfold serialBound
    omega
  rw [h]
  rfl

/-- **The words of a kind** are those that the kind makes with their own lower half. -/
theorem kindOf?_eq_some_iff {raw : UInt32} {k : Kind} :
    kindOf? raw = some k ↔ (encode k (raw.toNat % serialBound)).raw = raw := by
  constructor
  · intro h
    have hid := encode_kind_serial ⟨raw, by rw [h]; rfl⟩
    have hkind : kind ⟨raw, by rw [h]; rfl⟩ = k := by simp [kind, h]
    rw [hkind] at hid
    exact congrArg PortId.raw hid
  · intro h
    rw [← h]
    exact kindOf?_pack _ _

/-- **The words of no kind** are those that no kind makes, with whatever serial number. -/
theorem kindOf?_eq_none_iff {raw : UInt32} :
    kindOf? raw = none ↔ ∀ (k : Kind) (s : UInt64), (encode k s.toNat).raw ≠ raw := by
  constructor
  · rintro h k s rfl
    rw [kindOf?_raw] at h
    cases h
  · intro h
    cases hk : kindOf? raw with
    | none => rfl
    | some k =>
      refine absurd (kindOf?_eq_some_iff.1 hk) ?_
      have hs : (UInt64.ofNat (raw.toNat % serialBound)).toNat = raw.toNat % serialBound :=
        UInt64.toNat_ofNat_of_lt' (by unfold serialBound UInt64.size; omega)
      rw [← hs]
      exact h k _

/-- **Words, identifiers and pairs.** A kind and a serial number of 64 bits make an identifier that
gives back the kind and the lower 16 bits. Two pairs make the same identifier only if they agree in
the kind and in these bits, and identifiers are ordered as the pairs are. A word is read as a kind
exactly if that kind makes it with the lower half of the word, and as none exactly if no pair makes
it. -/
theorem encode_correspondence :
    (∀ (k : Kind) (s : UInt64),
      (encode k s.toNat).raw = UInt32.ofNat k.discriminant <<< 16 ||| s.toUInt32 &&& 0xFFFF ∧
      (encode k s.toNat).kind = k ∧ (encode k s.toNat).serial = s.toNat % 65536) ∧
    (∀ (k₁ k₂ : Kind) (s₁ s₂ : UInt64),
      (encode k₁ s₁.toNat = encode k₂ s₂.toNat ↔
        k₁ = k₂ ∧ s₁.toNat % 65536 = s₂.toNat % 65536) ∧
      order (encode k₁ s₁.toNat) (encode k₂ s₂.toNat) =
        (compare k₁.discriminant k₂.discriminant).then
          (compare (s₁.toNat % 65536) (s₂.toNat % 65536))) ∧
    ∀ raw : UInt32,
      kindOf? raw = Kind.ofDiscriminant? (raw >>> 16).toUInt16.toNat ∧
      (∀ k, kindOf? raw = some k ↔ (encode k (raw.toNat % 65536)).raw = raw) ∧
      (kindOf? raw = none ↔ ∀ (k : Kind) (s : UInt64), (encode k s.toNat).raw ≠ raw) := by
  refine ⟨fun k s => ⟨raw_encode k s, kind_encode k _, serial_encode k _⟩,
    fun k₁ k₂ s₁ s₂ => ⟨encode_eq_encode_iff, order_encode k₁ k₂ _ _⟩,
    fun raw => ⟨kindOf?_eq_shiftRight raw, fun k => kindOf?_eq_some_iff, kindOf?_eq_none_iff⟩⟩

end PortId

end PortRoster
