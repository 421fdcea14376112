import Telecontrol.Proofs.Layout
import Telecontrol.Quality

/-!
# Bits of octets

Flags and small numbers share octets. What is read of an octet that was put together, and what an octet
becomes that is read and put together again.

* `decidableForallOctet`: a fact on all octets can be evaluated.
* `and_field`, `field_and`, `hasBits_field`: a number in the low bits of an octet and flags above it.
* `flagBits_hasBits`: a flag that is read and written again.
-/

namespace Telecontrol

/-- A fact on all octets is one on the numbers below 256. -/
instance (priority := low) decidableForallOctet (p : UInt8 → Prop) [DecidablePred p] :
    Decidable (∀ b, p b) :=
  decidable_of_iff (∀ n < 256, p (UInt8.ofNat n))
    ⟨fun h b => UInt8.ofNat_toNat (x := b) ▸ h b.toNat b.toNat_lt, fun h n _ => h (UInt8.ofNat n)⟩

theorem or_and (a b m : UInt8) : (a ||| b) &&& m = a &&& m ||| b &&& m :=
  UInt8.toBitVec_inj.1 BitVec.and_or_distrib_right

theorem and_or (b m k : UInt8) : b &&& m ||| b &&& k = b &&& (m ||| k) :=
  UInt8.toBitVec_inj.1 BitVec.and_or_distrib_left.symm

/-- The masks of single flags. -/
def flagMasks : List UInt8 := [0x01, 0x02, 0x04, 0x08, 0x10, 0x20, 0x40, 0x80]

theorem flagBits_hasBits (b : UInt8) {m : UInt8} (hm : m ∈ flagMasks) :
    flagBits (hasBits b m) m = b &&& m := by
  have h : ∀ b : UInt8, ∀ m ∈ flagMasks, flagBits (hasBits b m) m = b &&& m := by decide +kernel
  exact h b m hm

theorem hasBits_and (b m k : UInt8) : hasBits (b &&& m) k = hasBits b (m &&& k) := by
  unfold hasBits
  rw [UInt8.and_assoc]

theorem toNat_and_three (b : UInt8) : (b &&& 0x03).toNat = b.toNat % 4 := by
  rw [UInt8.toNat_and]
  exact Nat.and_two_pow_sub_one_eq_mod b.toNat 2

theorem forall_and_three {p : UInt8 → Prop} (h : ∀ n < 4, p (UInt8.ofNat n)) (b : UInt8) :
    p (b &&& 0x03) := by
  have hb := h (b &&& 0x03).toNat (by rw [toNat_and_three]; omega)
  rwa [UInt8.ofNat_toNat] at hb

theorem seven_bits {n : Nat} (h : n < 128) (flag : Bool) :
    (UInt8.ofNat n ||| flagBits flag 0x80).toNat % 128 = n ∧
      hasBits (UInt8.ofNat n ||| flagBits flag 0x80) 0x80 = flag := by
  have hall : ∀ n < 128, ∀ flag, (UInt8.ofNat n ||| flagBits flag 0x80).toNat % 128 = n ∧
      hasBits (UInt8.ofNat n ||| flagBits flag 0x80) 0x80 = flag := by
    decide +kernel
  exact hall n h flag

variable {x y m k : UInt8}

/-- A number in the bits of `m` does not show in other bits. -/
theorem and_field (h : m &&& k = 0) : (x &&& m ||| y) &&& k = y &&& k := by
  rw [or_and, UInt8.and_assoc, h, UInt8.and_zero, UInt8.zero_or]

/-- A number in the bits of `m` is read back if nothing else has these bits. -/
theorem field_and (h : y &&& m = 0) : (x &&& m ||| y) &&& m = x &&& m := by
  rw [or_and, UInt8.and_assoc, UInt8.and_self, h, UInt8.or_zero]

theorem hasBits_field (h : m &&& k = 0) : hasBits (x &&& m ||| y) k = hasBits y k := by
  unfold hasBits
  rw [and_field h]

end Telecontrol
