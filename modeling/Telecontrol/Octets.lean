/-!
# Octet strings

The wire carries octet strings, and every number on it goes out least significant octet first.

* `Octets`: an octet string.
* `Octets.ofNat`, `Octets.toNat`: a number of a given width, and the number an octet string denotes;
  `toNat_ofNat` and `ofNat_toNat` say that the two undo each other up to the width.
* `Octets.split?`: cuts a field of a given width off the front.
-/

namespace Telecontrol

/-- An octet string as the wire carries it. -/
abbrev Octets := List UInt8

namespace Octets

/-- The `w` low octets of `n`, the least significant first. -/
def ofNat : (w : Nat) → (n : Nat) → Octets
  | 0, _ => []
  | w + 1, n => UInt8.ofNat n :: ofNat w (n / 256)

/-- The number that an octet string denotes, the least significant octet first. -/
def toNat : Octets → Nat
  | [] => 0
  | b :: bs => b.toNat + 256 * toNat bs

/-- The first `w` octets and the rest, if there are as many. -/
def split? (w : Nat) (bs : Octets) : Option (Octets × Octets) :=
  if w ≤ bs.length then some (bs.take w, bs.drop w) else none

@[simp] theorem length_ofNat (w n : Nat) : (ofNat w n).length = w := by
  induction w generalizing n with
  | zero => rfl
  | succ w ih => simp [ofNat, ih]

/-- A field of width `w` keeps a number modulo `256 ^ w`. -/
theorem toNat_ofNat (w n : Nat) : toNat (ofNat w n) = n % Nat.pow 256 w := by
  induction w generalizing n with
  | zero => simp [ofNat, toNat, Nat.mod_one]
  | succ w ih =>
    have hw : Nat.pow 256 (w + 1) = 256 * Nat.pow 256 w := Nat.mul_comm _ _
    simp only [ofNat, toNat, ih, UInt8.toNat_ofNat']
    rw [hw, Nat.mod_mul]

theorem toNat_lt (bs : Octets) : toNat bs < Nat.pow 256 bs.length := by
  induction bs with
  | nil => simp [toNat]
  | cons b bs ih =>
    have hb := b.toNat_lt
    have hw : Nat.pow 256 (bs.length + 1) = 256 * Nat.pow 256 bs.length := Nat.mul_comm _ _
    rw [toNat, List.length_cons, hw]
    omega

/-- Writing what was read gives the same octets back. -/
theorem ofNat_toNat (bs : Octets) : ofNat bs.length (toNat bs) = bs := by
  induction bs with
  | nil => rfl
  | cons b bs ih =>
    have hb := b.toNat_lt
    have hd : (b.toNat + 256 * toNat bs) / 256 = toNat bs := by omega
    have hm : UInt8.ofNat (b.toNat + 256 * toNat bs) = b := by
      apply UInt8.toNat_inj.1
      rw [UInt8.toNat_ofNat']
      omega
    simp only [List.length_cons, ofNat, toNat, hd, hm, ih]

theorem split?_append {w : Nat} {bs : Octets} (h : bs.length = w) (rest : Octets) :
    split? w (bs ++ rest) = some (bs, rest) := by
  simp [split?, ← h]

theorem split?_eq_none_iff {w : Nat} {bs : Octets} : split? w bs = none ↔ bs.length < w := by
  simp [split?]

end Octets

end Telecontrol
