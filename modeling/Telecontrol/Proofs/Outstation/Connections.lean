import Mathlib.Data.List.Nodup
import Telecontrol.Outstation.Run

/-!
# The connections of an outstation

Finding a connection by its id and putting one back.

* `Outstation.mem_put`, `Outstation.connection?_put`, `Outstation.connection?_put_cases`: what is there
  after a connection was put back.
* `Outstation.Distinct`: no two connections share an id; then `Outstation.connection?_eq_some_iff` says
  that finding a connection is the same as having it.
-/

namespace Telecontrol

namespace Outstation

variable {o : Outstation} {c d : StationConnection} {id : Nat}

theorem mem_of_connection? (h : o.connection? id = some c) : c ∈ o.connections :=
  List.mem_of_find?_eq_some h

theorem id_of_connection? (h : o.connection? id = some c) : c.id = id := by
  simpa only [beq_iff_eq] using List.find?_some h

theorem mem_put (h : ∃ x ∈ o.connections, x.id = c.id) :
    d ∈ (o.put c).connections ↔ d = c ∨ d ∈ o.connections ∧ d.id ≠ c.id := by
  simp only [put, List.mem_map]
  constructor
  · rintro ⟨x, hx, rfl⟩
    by_cases hi : x.id = c.id
    · exact Or.inl (if_pos hi)
    · rw [if_neg hi]
      exact Or.inr ⟨hx, hi⟩
  · rintro (rfl | ⟨hd, hi⟩)
    · obtain ⟨x, hx, hi⟩ := h
      exact ⟨x, hx, if_pos hi⟩
    · exact ⟨d, hd, if_neg hi⟩

theorem map_id_put (o : Outstation) (c : StationConnection) :
    (o.put c).connections.map (·.id) = o.connections.map (·.id) := by
  rw [put, List.map_map]
  refine List.map_congr_left fun x _ => ?_
  by_cases hi : x.id = c.id
  · rw [Function.comp_apply, if_pos hi, hi]
  · rw [Function.comp_apply, if_neg hi]

theorem connection?_put (h : o.connection? id = some c) (hd : d.id = id) :
    (o.put d).connection? id = some d := by
  subst hd
  simp only [connection?, put] at h ⊢
  revert h
  induction o.connections with
  | nil => nofun
  | cons x later ih =>
    intro h
    by_cases hx : x.id = d.id
    · rw [List.map_cons, if_pos hx, List.find?_cons, beq_self_eq_true]
    · have hx' : (x.id == d.id) = false := beq_eq_false_iff_ne.2 hx
      simp only [List.find?_cons, hx'] at h
      simp only [List.map_cons, if_neg hx, List.find?_cons, hx']
      exact ih h

theorem connection?_put_of_ne (hd : d.id ≠ id) : (o.put d).connection? id = o.connection? id := by
  simp only [connection?, put]
  induction o.connections with
  | nil => rfl
  | cons x later ih =>
    by_cases hx : x.id = d.id
    · have hd' : (d.id == id) = false := beq_eq_false_iff_ne.2 hd
      rw [List.map_cons, if_pos hx]
      simp only [List.find?_cons, hx, hd', ih]
    · simp only [List.map_cons, if_neg hx, List.find?_cons, ih]

/-- What is found after a connection was put back is that connection, or it was found before. -/
theorem connection?_put_cases {j : Nat} (hc : o.connection? id = some c) (hi : d.id = c.id)
    {e : StationConnection} (he : (o.put d).connection? j = some e) :
    j = id ∧ e = d ∨ j ≠ id ∧ o.connection? j = some e := by
  have hi : d.id = id := hi.trans (id_of_connection? hc)
  by_cases hj : j = id
  · subst hj
    rw [connection?_put hc hi, Option.some.injEq] at he
    exact .inl ⟨rfl, he.symm⟩
  · rw [connection?_put_of_ne (hi ▸ Ne.symm hj)] at he
    exact .inr ⟨hj, he⟩

/-- No two connections share an id. -/
def Distinct (o : Outstation) : Prop := (o.connections.map (·.id)).Nodup

theorem Distinct.put (h : o.Distinct) (c : StationConnection) : (o.put c).Distinct := by
  rw [Distinct, map_id_put]
  exact h

theorem Distinct.eq_of_id_eq (h : o.Distinct) (hc : c ∈ o.connections) (hd : d ∈ o.connections)
    (hi : c.id = d.id) : c = d :=
  List.inj_on_of_nodup_map h hc hd hi

theorem connection?_eq_some_iff (h : o.Distinct) :
    o.connection? id = some c ↔ c ∈ o.connections ∧ c.id = id := by
  constructor
  · intro hc
    exact ⟨mem_of_connection? hc, id_of_connection? hc⟩
  · rintro ⟨hc, hi⟩
    obtain ⟨x, hx⟩ : ∃ x, o.connection? id = some x :=
      Option.isSome_iff_exists.1 (List.find?_isSome.2 ⟨c, hc, beq_iff_eq.2 hi⟩)
    rw [hx, h.eq_of_id_eq hc (mem_of_connection? hx) (hi.trans (id_of_connection? hx).symm)]

/-- A connection that is put back counts at most if the one before it did. -/
theorem openConnections_put_le (hc : c.isRegistered → ∀ x ∈ o.connections, x.id = c.id →
    x.isRegistered) : (o.put c).openConnections ≤ o.openConnections := by
  simp only [openConnections, registered, put, ← List.countP_eq_length_filter, List.countP_map]
  refine List.countP_mono_left fun x hx hr => ?_
  by_cases hi : x.id = c.id
  · rw [Function.comp_apply, if_pos hi] at hr
    exact hc hr x hx hi
  · rwa [Function.comp_apply, if_neg hi] at hr

end Outstation

end Telecontrol
