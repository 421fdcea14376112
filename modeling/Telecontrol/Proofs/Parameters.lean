import Telecontrol.Parameters

/-!
# Valid parameters

`Parameters.Valid` lists what `Parameters.validate` makes sure of, and `Parameters.valid_iff` says that
it makes sure of nothing else. `Parameters.StandardHeader` is what of it the octets of an ASDU need.
-/

namespace Telecontrol

namespace Parameters

/-- Parameters with the data unit identifier of the standard, and any width of object addresses. -/
structure StandardHeader (p : Parameters) : Prop where
  typeIdSize : p.typeIdSize = 1
  qualifierSize : p.qualifierSize = 1
  causeSize : p.causeSize = 1 ∨ p.causeSize = 2
  commonAddressSize : p.commonAddressSize = 1 ∨ p.commonAddressSize = 2

/-- Parameters that describe a link of the standard. -/
structure Valid (p : Parameters) : Prop extends StandardHeader p where
  one_le_objectAddressSize : 1 ≤ p.objectAddressSize
  objectAddressSize_le : p.objectAddressSize ≤ 3
  k_pos : 0 < p.k
  w_pos : 0 < p.w
  k_le : p.k ≤ 32767
  t1_pos : 0 < p.t1
  t2_pos : 0 < p.t2
  t3_pos : 0 < p.t3

theorem Valid.of_validate {p : Parameters} (h : p.validate = .ok ()) : p.Valid := by
  unfold validate at h
  iterate 6
    split at h
    · cases h
  split at h
  · cases h
  rename_i ht
  obtain ⟨h1, h2, h3⟩ : ¬ p.t1 = 0 ∧ ¬ p.t2 = 0 ∧ ¬ p.t3 = 0 := by simpa only [not_or] using ht
  refine ⟨⟨?_, ?_, ?_, ?_⟩, ?_, ?_, ?_, ?_, ?_, Nat.pos_of_ne_zero h1, Nat.pos_of_ne_zero h2,
    Nat.pos_of_ne_zero h3⟩ <;> omega

theorem Valid.validate {p : Parameters} (h : p.Valid) : p.validate = .ok () := by
  obtain ⟨⟨h1, h2, h3, h4⟩, h5, h6, h7, h8, h9, h10, h11, h12⟩ := h
  have ht : ¬ (p.t1 = 0 ∨ p.t2 = 0 ∨ p.t3 = 0) := by
    simpa only [not_or] using ⟨Nat.ne_of_gt h10, Nat.ne_of_gt h11, Nat.ne_of_gt h12⟩
  rw [Parameters.validate, if_neg (by omega), if_neg (by omega), if_neg (by omega),
    if_neg (by omega), if_neg (by omega), if_neg (by omega), if_neg ht]

theorem StandardHeader.headerSize_le {p : Parameters} (h : p.StandardHeader) : p.headerSize ≤ 6 := by
  unfold headerSize
  rw [h.typeIdSize, h.qualifierSize]
  have := h.causeSize
  have := h.commonAddressSize
  omega

theorem valid_iff {p : Parameters} : p.validate = .ok () ↔ p.Valid :=
  ⟨Valid.of_validate, Valid.validate⟩

end Parameters

end Telecontrol
