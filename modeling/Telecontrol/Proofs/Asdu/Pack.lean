import Telecontrol.Asdu
import Telecontrol.Proofs.InformationObject

/-!
# Packed objects

The payload of an ASDU holds the objects of one type back to back. In a sequence only the first has an
address, and the others count up from it.

* `Asdu.payloadSize_succ`: how many octets one object more takes, so that the objects before it tell where it
  starts.
* `Asdu.pack`: the octets of objects in either packing, with `Asdu.pack_snoc`, `Asdu.length_pack`.
* `Asdu.Consecutive`: the addresses of a sequence.
* `Asdu.Holds`: an ASDU whose payload is packed objects of its type; `Asdu.Holds.element` reads them.
-/

namespace Telecontrol

theorem TypeId.ofCode?_code (t : TypeId) : ofCode? t.code = some t := by
  cases t <;> rfl

theorem TypeId.ofCode_code (t : TypeId) : ofCode t.code = .ok t := by
  unfold ofCode
  rw [t.ofCode?_code]

/-! ## Strings of one width -/

section Widths

variable {α : Type} {f : α → Octets} {width : Nat}

theorem length_flatMap_of_length {xs : List α} (hf : ∀ x ∈ xs, (f x).length = width) :
    (xs.flatMap f).length = xs.length * width := by
  induction xs with
  | nil => simp
  | cons x xs ih =>
    rw [List.forall_mem_cons] at hf
    rw [List.flatMap_cons, List.length_append, hf.1, ih hf.2, List.length_cons, Nat.succ_mul, Nat.add_comm]

theorem drop_flatMap {xs : List α} (hf : ∀ x ∈ xs, (f x).length = width) {i : Nat} {x : α}
    (hx : xs[i]? = some x) : ∃ rest, (xs.flatMap f).drop (i * width) = f x ++ rest := by
  induction xs generalizing i with
  | nil => simp at hx
  | cons y ys ih =>
    rw [List.forall_mem_cons] at hf
    cases i with
    | zero =>
      rw [List.getElem?_cons_zero, Option.some.injEq] at hx
      subst hx
      exact ⟨ys.flatMap f, by simp⟩
    | succ i =>
      rw [List.getElem?_cons_succ] at hx
      obtain ⟨rest, hrest⟩ := ih hf.2 hx
      refine ⟨rest, ?_⟩
      rw [List.flatMap_cons, Nat.succ_mul, Nat.add_comm, ← List.drop_drop,
        List.drop_left' hf.1, hrest]

end Widths

namespace Asdu

variable {p : Parameters} {t : TypeId} {objects : List InformationObject}

/-! ## The octets of objects -/

section

variable {sequence : Bool} {n : Nat}

theorem payloadSize_bare {q : StructureQualifier} (h : q.count = 0) : payloadSize p t q = 0 :=
  if_pos h

/-- Objects with an address each, as the first of a sequence also is. -/
theorem payloadSize_addressed (h : ¬ (sequence = true ∧ 0 < n)) :
    payloadSize p t ⟨n, sequence⟩ = n * (p.objectAddressSize + t.elementSize) := by
  unfold payloadSize
  dsimp only
  by_cases hn : n = 0
  · rw [if_pos hn, hn, Nat.zero_mul]
  · have hs : ¬ sequence = true := fun hs => h ⟨hs, Nat.pos_of_ne_zero hn⟩
    rw [if_neg hn, if_neg hs]

theorem payloadSize_counted (h : sequence = true ∧ 0 < n) :
    payloadSize p t ⟨n, sequence⟩ = p.objectAddressSize + n * t.elementSize := by
  unfold payloadSize
  dsimp only
  rw [if_neg (Nat.ne_of_gt h.2), if_pos h.1]

/-- One object more takes its element, and an address unless it continues a sequence. -/
theorem payloadSize_succ (p : Parameters) (t : TypeId) (n : Nat) (sequence : Bool) :
    payloadSize p t ⟨n + 1, sequence⟩ = payloadSize p t ⟨n, sequence⟩ +
      (t.elementSize + if !(sequence && decide (0 < n)) then p.objectAddressSize else 0) := by
  by_cases hs : sequence = true ∧ 0 < n
  · have hdecide : (sequence && decide (0 < n)) = true := by simp [hs]
    rw [payloadSize_counted ⟨hs.1, Nat.succ_pos n⟩, payloadSize_counted hs, hdecide, Bool.not_true,
      if_neg Bool.false_ne_true, Nat.succ_mul]
    omega
  · have hdecide : (sequence && decide (0 < n)) = false := by simpa using hs
    rw [payloadSize_addressed hs, hdecide, Bool.not_false, if_pos rfl]
    cases sequence with
    | false =>
      have hs' : ¬ (false = true ∧ 0 < n + 1) := fun h => Bool.false_ne_true h.1
      rw [payloadSize_addressed hs', Nat.succ_mul]
      omega
    | true =>
      obtain rfl : n = 0 := by simpa using hs
      rw [payloadSize_counted ⟨rfl, Nat.one_pos⟩]
      omega

theorem payloadSize_mono (p : Parameters) (t : TypeId) (sequence : Bool) {m n : Nat} (h : m ≤ n) :
    payloadSize p t ⟨m, sequence⟩ ≤ payloadSize p t ⟨n, sequence⟩ := by
  induction h with
  | refl => exact Nat.le_refl _
  | step _ ih =>
    rw [payloadSize_succ]
    exact Nat.le_trans ih (Nat.le_add_right _ _)

end

/-! ## Packing -/

/-- The octets of objects: the first has its address, the others unless they are a sequence. -/
def pack (p : Parameters) (sequence : Bool) : List InformationObject → Octets
  | [] => []
  | o :: objects => o.encode p true ++ objects.flatMap (·.encode p (!sequence))

theorem pack_false (objects : List InformationObject) :
    pack p false objects = objects.flatMap (·.encode p true) := by
  cases objects <;> rfl

theorem pack_snoc (sequence : Bool) (objects : List InformationObject) (o : InformationObject) :
    pack p sequence (objects ++ [o]) =
      pack p sequence objects ++ o.encode p !(sequence && decide (0 < objects.length)) := by
  cases objects with
  | nil => simp [pack]
  | cons o' objects => simp [pack]

theorem length_encode_of_type {o : InformationObject} (h : o.element.typeId = t) (withAddress : Bool) :
    (o.encode p withAddress).length = t.elementSize + if withAddress then p.objectAddressSize else 0 := by
  rw [o.length_encode, ← h]
  rfl

/-- Packed objects take the octets that a received ASDU of their type must have. -/
theorem length_pack (sequence : Bool) (h : ∀ o ∈ objects, o.element.typeId = t) :
    (pack p sequence objects).length = payloadSize p t ⟨objects.length, sequence⟩ := by
  cases objects with
  | nil => rfl
  | cons o objects =>
    rw [List.forall_mem_cons] at h
    have hrest := length_flatMap_of_length fun o' ho =>
      length_encode_of_type (p := p) (h.2 o' ho) !sequence
    unfold pack
    rw [List.length_append, length_encode_of_type h.1, hrest, List.length_cons]
    cases sequence with
    | true =>
      show t.elementSize + p.objectAddressSize + objects.length * t.elementSize =
        p.objectAddressSize + (objects.length + 1) * t.elementSize
      rw [Nat.succ_mul]
      omega
    | false =>
      show t.elementSize + p.objectAddressSize + objects.length * (t.elementSize + p.objectAddressSize) =
        (objects.length + 1) * (p.objectAddressSize + t.elementSize)
      rw [Nat.succ_mul, Nat.add_comm p.objectAddressSize]
      omega

theorem pack_true (o : InformationObject) (objects : List InformationObject) :
    pack p true (o :: objects) =
      p.writeAddress o.address ++ (o :: objects).flatMap (·.encode p false) := by
  simp [pack, InformationObject.encode]

theorem readAddress_pack (sequence : Bool) (o : InformationObject) (objects : List InformationObject) :
    ∃ rest, p.readAddress (pack p sequence (o :: objects)) = .ok (p.carried o.address, rest) := by
  refine ⟨o.element.write ++ objects.flatMap (·.encode p (!sequence)), ?_⟩
  rw [← p.readAddress_writeAddress]
  simp [pack, InformationObject.encode]

theorem drop_pack_addressed {sequence : Bool} (h : ∀ o ∈ objects, o.element.typeId = t) {i : Nat}
    {o : InformationObject} (ho : objects[i]? = some o) (hs : ¬ (sequence = true ∧ 0 < i)) :
    ∃ rest, (pack p sequence objects).drop (i * (p.objectAddressSize + t.elementSize)) =
      o.encode p true ++ rest := by
  cases sequence with
  | true =>
    have hi : i = 0 := by simpa using hs
    subst hi
    cases objects with
    | nil => simp at ho
    | cons first objects =>
      rw [List.getElem?_cons_zero, Option.some.injEq] at ho
      subst ho
      rw [Nat.zero_mul, List.drop_zero]
      exact ⟨_, rfl⟩
  | false =>
    rw [pack_false, Nat.add_comm p.objectAddressSize]
    exact drop_flatMap (fun o' ho' => length_encode_of_type (h o' ho') true) ho

theorem drop_pack_counted (h : ∀ o ∈ objects, o.element.typeId = t) {i : Nat} {o : InformationObject}
    (ho : objects[i]? = some o) :
    ∃ rest, (pack p true objects).drop (p.objectAddressSize + i * t.elementSize) =
      o.encode p false ++ rest := by
  cases objects with
  | nil => simp at ho
  | cons first objects =>
    rw [pack_true, ← List.drop_drop, List.drop_left' (p.length_writeAddress first.address)]
    exact drop_flatMap (fun o' ho' => length_encode_of_type (h o' ho') false) ho

/-- The addresses behind the first count up from it as its field carries it. -/
def Consecutive (p : Parameters) (objects : List InformationObject) : Prop :=
  ∀ first, objects[0]? = some first → ∀ i o, 0 < i → objects[i]? = some o →
    o.address = p.carried first.address + UInt32.ofNat i

theorem Consecutive.snoc {o : InformationObject} (h : Consecutive p objects)
    (ho : ∀ first, objects[0]? = some first →
      o.address = p.carried first.address + UInt32.ofNat objects.length) :
    Consecutive p (objects ++ [o]) := by
  intro first hfirst i o' hi ho'
  by_cases hlt : i < objects.length
  · rw [List.getElem?_append_left (Nat.zero_lt_of_lt hlt)] at hfirst
    rw [List.getElem?_append_left hlt] at ho'
    exact h first hfirst i o' hi ho'
  · have hle : objects.length ≤ i := Nat.le_of_not_lt hlt
    rw [List.getElem?_append_right hle] at ho'
    obtain ⟨hindex, rfl⟩ : i - objects.length = 0 ∧ o = o' := by
      rw [List.getElem?_singleton] at ho'
      split at ho' <;> simp_all
    have hlength : i = objects.length := by omega
    subst hlength
    rw [List.getElem?_append_left hi] at hfirst
    exact ho first hfirst

/-! ## The objects of an ASDU -/

/-- The objects that an ASDU was given, in order. -/
structure Holds (a : Asdu) (objects : List InformationObject) : Prop where
  count : a.count = objects.length
  payload : a.payload = pack a.parameters a.isSequence objects
  types : ∀ o ∈ objects, o.element.typeId.code = a.typeCode
  consecutive : a.isSequence = true → Consecutive a.parameters objects
  count_le : a.count ≤ maxElements
  length_le : objects ≠ [] → a.encodedLength ≤ Apdu.maxAsduLength

variable {a a' : Asdu} {o : InformationObject}

theorem Holds.types_eq (h : a.Holds objects) (ht : a.typeId? = some t) :
    ∀ o ∈ objects, o.element.typeId = t := by
  intro o ho
  have htype := o.element.typeId.ofCode?_code
  unfold typeId? at ht
  rw [h.types o ho, ht] at htype
  exact (Option.some.inj htype).symm

theorem Holds.typeId? (h : a.Holds objects) (ho : o ∈ objects) :
    a.typeId? = some o.element.typeId := by
  unfold Asdu.typeId?
  rw [← h.types o ho]
  exact o.element.typeId.ofCode?_code

theorem Holds.length_payload (h : a.Holds objects) (ht : a.typeId? = some t) :
    a.payload.length = payloadSize a.parameters t a.qualifier := by
  have hqualifier : a.qualifier = ⟨objects.length, a.isSequence⟩ := by
    rw [← h.count]
    rfl
  rw [h.payload, length_pack a.isSequence (h.types_eq ht), hqualifier]

theorem element_addressed {i : Nat} (ht : TypeId.ofCode a.typeCode = .ok t) (hi : i < a.count)
    (hs : ¬ (a.isSequence = true ∧ 0 < i)) :
    a.element i = InformationObject.decode t a.parameters
      (a.payload.drop (i * (a.parameters.objectAddressSize + t.elementSize))) none := by
  have hs' : (a.isSequence && decide (0 < i)) = false := by simpa using hs
  unfold Asdu.element
  rw [ht, hs']
  simp only [bind, Except.bind, if_neg (Nat.not_le.2 hi)]
  rfl

theorem element_counted {i : Nat} {first : UInt32} {rest : Octets}
    (ht : TypeId.ofCode a.typeCode = .ok t) (hi : i < a.count) (hs : a.isSequence = true ∧ 0 < i)
    (hr : a.parameters.readAddress a.payload = .ok (first, rest)) :
    a.element i = InformationObject.decode t a.parameters
      (a.payload.drop (a.parameters.objectAddressSize + i * t.elementSize))
      (some (first + UInt32.ofNat i)) := by
  have hs' : (a.isSequence && decide (0 < i)) = true := by simpa using hs
  unfold Asdu.element
  rw [ht, hs', hr]
  simp only [bind, Except.bind, if_neg (Nat.not_le.2 hi)]
  rfl

/-- An object is read from where it was packed. -/
theorem Holds.element (h : a.Holds objects) {i : Nat} (ho : objects[i]? = some o) :
    a.element i = .ok
      { address := if a.isSequence = true ∧ 0 < i then o.address else a.parameters.carried o.address
        element := o.element.canonical } := by
  have hmem : o ∈ objects := List.mem_of_getElem? ho
  have htypes := h.types_eq (h.typeId? hmem)
  have hcode : TypeId.ofCode a.typeCode = .ok o.element.typeId := by
    rw [← h.types o hmem, o.element.typeId.ofCode_code]
  obtain ⟨hlt, -⟩ := List.getElem?_eq_some_iff.1 ho
  have hi : i < a.count := by
    rw [h.count]
    exact hlt
  by_cases hs : a.isSequence = true ∧ 0 < i
  · -- The address is counted up from the first, which is read from the payload again.
    obtain ⟨first, objects, rfl⟩ := List.exists_cons_of_length_pos (Nat.zero_lt_of_lt hlt)
    obtain ⟨rest, hr⟩ := readAddress_pack (p := a.parameters) a.isSequence first objects
    rw [← h.payload] at hr
    obtain ⟨rest', hfield⟩ := drop_pack_counted (p := a.parameters) htypes ho
    rw [← hs.1, ← h.payload] at hfield
    have haddress := h.consecutive hs.1 first rfl i o hs.2 ho
    rw [element_counted hcode hi hs hr, hfield, ← haddress, o.decode_write, if_pos hs]
  · obtain ⟨rest, hfield⟩ := drop_pack_addressed (p := a.parameters) htypes ho hs
    rw [← h.payload] at hfield
    rw [element_addressed hcode hi hs, hfield, o.decode_encode, if_neg hs]

end Asdu

end Telecontrol
