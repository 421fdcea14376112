import Telecontrol.Proofs.Window.Ideal

/-!
# The window refines the ideal one

Over any sequence of operations the window of 15-bit numbers behaves as a window with unbounded
counters: it shows the same counters modulo 32768, takes the same numbers and releases the same frames.

* `WindowEvent`, `Window.run`, `IdealWindow.run`: the operations, and what they make of a window of
  either kind.
* `Window.Tracks.acknowledge_ok`, `Window.Tracks.onInformation_ok` and their refusals: what each operation
  does to a window that tracks an ideal one.
* `Window.Tracks.run`: the simulation; `Window.run_refines_ideal`: what can be observed of it.
-/

namespace Telecontrol

open Apci (sequenceModulus)

/-- An operation on a window. -/
inductive WindowEvent where
  | send (now : Millis)
  | supervise
  | acknowledge (receive : Nat)
  | receive (send receive : Nat) (now : Millis)
  deriving DecidableEq, Repr, Inhabited

namespace Window

variable {w w' : Window} {i : IdealWindow} {s r a : Nat} {now : Millis} {fault : Fault}

/-! ## What the operations do -/

/-- The window without its `n` oldest frames. -/
def release (w : Window) (n : Nat) : Window := { w with outstanding := w.outstanding.drop n }

/-- The window with one more received frame. -/
def countReceived (w : Window) (now : Millis) : Window :=
  { w with
    receiveCount := successor w.receiveCount
    firstUnconfirmedAt := if w.unconfirmed = 0 then some now else w.firstUnconfirmedAt
    unconfirmed := min (w.unconfirmed + 1) 65535 }

theorem get_bind {α : Type} (f : Window → EStateM Fault Window α) (w : Window) :
    (get >>= f) w = f w w := rfl

theorem acknowledge_eq (r : Nat) (w : Window) (oldest : Nat)
    (ho : distance (w.outstanding.size % 65536) w.sendCount = oldest) :
    (w.outstanding.size % 65536 < distance oldest r ∧
      ∃ text, acknowledge r w = .error (.protocol text) w) ∨
    (distance oldest r ≤ w.outstanding.size % 65536 ∧
      acknowledge r w = .ok () (w.release (distance oldest r))) := by
  subst ho
  by_cases h : w.outstanding.size % 65536
      < distance (distance (w.outstanding.size % 65536) w.sendCount) r
  · refine Or.inl ⟨h, ?_⟩
    unfold acknowledge
    simp only [get_bind, if_pos h]
    exact ⟨_, rfl⟩
  · refine Or.inr ⟨by omega, ?_⟩
    unfold acknowledge
    simp only [get_bind, if_neg h]
    rfl

theorem onInformation_mismatch (hs : s ≠ w.receiveCount) :
    onInformation s r now w = .error (.sequenceMismatch w.receiveCount s) w := by
  unfold onInformation
  simp only [get_bind, if_pos hs]
  rfl

theorem onInformation_next :
    onInformation w.receiveCount r now w =
      match acknowledge r w with
      | .ok _ w' => .ok () (w'.countReceived now)
      | .error fault w' => .error fault w' := by
  unfold onInformation
  simp only [get_bind, ne_eq, not_true, if_false]
  simp only [bind, EStateM.bind]
  cases acknowledge r w <;> rfl

/-- A number that is refused leaves the window as it was. -/
theorem eq_of_acknowledge_error (h : acknowledge r w = .error fault w') : w' = w := by
  rcases acknowledge_eq r w _ rfl with ⟨-, text, he⟩ | ⟨-, he⟩
  · rw [he] at h
    cases h
    rfl
  · rw [he] at h
    cases h

/-- A frame that is refused leaves the window as it was, also where its N(S) was right. -/
theorem eq_of_onInformation_error (h : onInformation s r now w = .error fault w') : w' = w := by
  by_cases hs : s = w.receiveCount
  · subst hs
    rw [onInformation_next] at h
    cases ha : acknowledge r w with
    | ok u v => rw [ha] at h; cases h
    | error f v =>
      rw [ha] at h
      cases h
      exact eq_of_acknowledge_error ha
  · rw [onInformation_mismatch hs] at h
    cases h
    rfl

/-! ## What they do to a window that tracks an ideal one -/

namespace Tracks

theorem acknowledge_ok (h : w.Tracks i) (hk : i.capacity < sequenceModulus) (ha : i.Acks r a) :
    acknowledge r w = .ok () (w.release (a - i.acked)) := by
  obtain ⟨rfl, hd⟩ := (h.released hk).1 ha
  rcases acknowledge_eq r w _ h.oldest with ⟨hlt, -⟩ | ⟨-, he⟩
  · rw [h.waiting hk] at hlt
    omega
  · rw [he, Nat.add_sub_cancel_left]

theorem acknowledge_error (h : w.Tracks i) (hk : i.capacity < sequenceModulus)
    (ha : ∀ a, ¬ i.Acks r a) : ∃ text, acknowledge r w = .error (.protocol text) w := by
  rcases acknowledge_eq r w _ h.oldest with ⟨-, text, he⟩ | ⟨hle, -⟩
  · exact ⟨text, he⟩
  · rw [h.waiting hk] at hle
    exact absurd ((h.released hk).2 ⟨rfl, hle⟩) (ha _)

theorem onInformation_ok (h : w.Tracks i) (hk : i.capacity < sequenceModulus)
    (hs : s = i.received % sequenceModulus) (ha : i.Acks r a) (now : Millis) :
    onInformation s r now w = .ok () ((w.release (a - i.acked)).countReceived now) := by
  rw [hs, ← h.receiveCount, onInformation_next, h.acknowledge_ok hk ha]

theorem release (h : w.Tracks i) (ha : i.Acks r a) :
    (w.release (a - i.acked)).Tracks { i with acked := a } where
  capacity := h.capacity
  sendCount := h.sendCount
  receiveCount := h.receiveCount
  numbers := by
    rw [← drop_numbersBetween ha.1, ← h.numbers]
    simp [Window.numbers, Window.release, List.take_of_length_le]
  acked_le := ha.2.1
  within := by have := ha.1; have := h.within; show i.sent - a ≤ i.capacity; omega

theorem countReceived (h : w.Tracks i) (now : Millis) :
    (w.countReceived now).Tracks { i with received := i.received + 1 } where
  capacity := h.capacity
  sendCount := h.sendCount
  receiveCount := by
    show (w.receiveCount + 1) % sequenceModulus = (i.received + 1) % sequenceModulus
    rw [h.receiveCount, Nat.mod_add_mod]
  numbers := h.numbers
  acked_le := h.acked_le
  within := h.within

theorem confirmed (h : w.Tracks i) : w.confirmed.Tracks i :=
  ⟨h.capacity, h.sendCount, h.receiveCount, h.numbers, h.acked_le, h.within⟩

theorem prepareInformation (h : w.Tracks i) (hc : w.canSend = true) (now : Millis) :
    (w.prepareInformation now).2.Tracks { i with sent := i.sent + 1 } where
  capacity := h.capacity
  sendCount := by
    show (w.sendCount + 1) % sequenceModulus = (i.sent + 1) % sequenceModulus
    rw [h.sendCount, Nat.mod_add_mod]
  receiveCount := h.receiveCount
  numbers := by
    rw [numbersBetween_snoc h.acked_le, ← h.numbers, ← h.sendCount]
    simp [Window.numbers, Window.prepareInformation, Window.confirmed]
  acked_le := Nat.le_succ_of_le h.acked_le
  within := by
    have := h.canSend_iff.1 hc
    show i.sent + 1 - i.acked ≤ i.capacity
    omega

end Tracks

/-! ## Runs -/

/-- What a received frame leaves of the window, whether it is taken or refused. -/
def leftBy (step : EStateM Fault Window Unit) (w : Window) : Window :=
  match step w with
  | .ok _ w => w
  | .error _ w => w

def apply (w : Window) : WindowEvent → Window
  | .send now => if w.canSend then (w.prepareInformation now).2 else w
  | .supervise => w.prepareSupervisory.2
  | .acknowledge receive => leftBy (acknowledge receive) w
  | .receive send receive now => leftBy (onInformation send receive now) w

def run (w : Window) (events : List WindowEvent) : Window := events.foldl apply w

end Window

namespace IdealWindow

def apply (i : IdealWindow) : WindowEvent → IdealWindow
  | .send _ => i.send
  | .supervise => i
  | .acknowledge receive => (i.acknowledge? receive).getD i
  | .receive send receive _ => (i.receive? send receive).getD i

def run (i : IdealWindow) (events : List WindowEvent) : IdealWindow := events.foldl apply i

theorem capacity_apply (i : IdealWindow) (event : WindowEvent) :
    (i.apply event).capacity = i.capacity := by
  cases event with
  | send now => rw [apply, send]; split <;> rfl
  | supervise => rfl
  | acknowledge r => rw [apply, acknowledge?]; cases i.target? r <;> rfl
  | receive s r now =>
    rw [apply, receive?, acknowledge?]
    split
    · cases i.target? r <;> rfl
    · rfl

theorem capacity_run (i : IdealWindow) (events : List WindowEvent) :
    (i.run events).capacity = i.capacity := by
  induction events generalizing i with
  | nil => rfl
  | cons event events ih => exact (ih (i.apply event)).trans (capacity_apply i event)

end IdealWindow

namespace Window

variable {w w' : Window} {i : IdealWindow} {s r a b : Nat} {now : Millis} {fault : Fault}

theorem tracks_start (p : Parameters) : (start p).Tracks (.start p.k) where
  capacity := rfl
  sendCount := rfl
  receiveCount := rfl
  numbers := rfl
  acked_le := Nat.le_refl 0
  within := Nat.zero_le _

theorem Tracks.target_lt (h : w.Tracks i) (hk : i.capacity < sequenceModulus) :
    i.sent - i.acked < sequenceModulus :=
  Nat.lt_of_le_of_lt h.within hk

/-- One operation takes a window that tracks an ideal one to a window that tracks it. -/
theorem Tracks.apply (h : w.Tracks i) (hk : i.capacity < sequenceModulus) (event : WindowEvent) :
    (w.apply event).Tracks (i.apply event) := by
  cases event with
  | send now =>
    by_cases hc : w.canSend = true
    · rw [Window.apply, if_pos hc, IdealWindow.apply, IdealWindow.send, if_pos (h.canSend_iff.1 hc)]
      exact h.prepareInformation hc now
    · rw [Window.apply, if_neg hc, IdealWindow.apply, IdealWindow.send,
        if_neg (fun hi => hc (h.canSend_iff.2 hi))]
      exact h
  | supervise => exact h.confirmed
  | acknowledge r =>
    rw [Window.apply, IdealWindow.apply, leftBy, IdealWindow.acknowledge?]
    by_cases ha : ∃ a, i.Acks r a
    · obtain ⟨a, ha⟩ := ha
      rw [h.acknowledge_ok hk ha, IdealWindow.target?_eq_some (h.target_lt hk) ha]
      exact h.release ha
    · have hn := not_exists.1 ha
      obtain ⟨text, he⟩ := h.acknowledge_error hk hn
      rw [he, IdealWindow.target?_eq_none hn]
      exact h
  | receive s r now =>
    rw [Window.apply, IdealWindow.apply, leftBy, IdealWindow.receive?, IdealWindow.acknowledge?]
    by_cases hs : s = i.received % sequenceModulus
    · rw [if_pos hs]
      by_cases ha : ∃ a, i.Acks r a
      · obtain ⟨a, ha⟩ := ha
        rw [h.onInformation_ok hk hs ha now, IdealWindow.target?_eq_some (h.target_lt hk) ha]
        exact (h.release ha).countReceived now
      · have hn := not_exists.1 ha
        obtain ⟨text, he⟩ := h.acknowledge_error hk hn
        rw [hs, ← h.receiveCount, onInformation_next, he, IdealWindow.target?_eq_none hn]
        exact h
    · rw [if_neg hs, onInformation_mismatch (by rw [h.receiveCount]; exact hs)]
      exact h

/-- The simulation over whole runs. -/
theorem Tracks.run (h : w.Tracks i) (hk : i.capacity < sequenceModulus) (events : List WindowEvent) :
    (w.run events).Tracks (i.run events) := by
  induction events generalizing w i with
  | nil => exact h
  | cons event events ih =>
    exact ih (h.apply hk event) (by rw [IdealWindow.capacity_apply]; exact hk)

/-! ## What can be observed -/

/-- A window takes the numbers that an ideal one takes, releases what it releases, and is unchanged where
it refuses. -/
structure AnswersAs (w : Window) (i : IdealWindow) : Prop where
  /-- N(R) is taken exactly if it stands for a counter between `acked` and `sent`. -/
  acknowledge_iff : ∀ r, (∃ w', acknowledge r w = .ok () w') ↔ ∃ a, i.Acks r a
  /-- It stands for no other one. -/
  target_unique : ∀ r a b, i.Acks r a → i.Acks r b → a = b
  /-- The frames below that counter are released and no others. -/
  releases : ∀ r a w', i.Acks r a → acknowledge r w = .ok () w' →
    w' = w.release (a - i.acked) ∧ w'.numbers = numbersBetween a i.sent
  /-- An I-frame is taken exactly if it is the next one and its N(R) is acceptable. -/
  receive_iff : ∀ s r now, (∃ w', onInformation s r now w = .ok () w') ↔
    s = i.received % sequenceModulus ∧ ∃ a, i.Acks r a
  /-- It counts as one received frame and releases what its N(R) acknowledges. -/
  receives : ∀ s r now a w', i.Acks r a → onInformation s r now w = .ok () w' →
    w'.receiveCount = (i.received + 1) % sequenceModulus ∧ w'.numbers = numbersBetween a i.sent
  /-- A refused N(R) changes nothing. -/
  acknowledge_error : ∀ r fault w', acknowledge r w = .error fault w' → w' = w
  /-- A refused I-frame changes nothing. -/
  receive_error : ∀ s r now fault w', onInformation s r now w = .error fault w' → w' = w

theorem Tracks.acknowledge_iff (h : w.Tracks i) (hk : i.capacity < sequenceModulus) (r : Nat) :
    (∃ w', acknowledge r w = .ok () w') ↔ ∃ a, i.Acks r a := by
  constructor
  · rintro ⟨w', hw⟩
    by_contra hn
    obtain ⟨text, he⟩ := h.acknowledge_error hk (not_exists.1 hn)
    rw [he] at hw
    cases hw
  · rintro ⟨a, ha⟩
    exact ⟨_, h.acknowledge_ok hk ha⟩

theorem Tracks.receive_iff (h : w.Tracks i) (hk : i.capacity < sequenceModulus) (s r : Nat)
    (now : Millis) : (∃ w', onInformation s r now w = .ok () w') ↔
      s = i.received % sequenceModulus ∧ ∃ a, i.Acks r a := by
  constructor
  · rintro ⟨w', hw⟩
    by_cases hs : s = w.receiveCount
    · subst hs
      refine ⟨h.receiveCount, (h.acknowledge_iff hk r).1 ?_⟩
      rw [onInformation_next] at hw
      cases ha : acknowledge r w with
      | ok u v => exact ⟨v, rfl⟩
      | error f v => rw [ha] at hw; cases hw
    · rw [onInformation_mismatch hs] at hw
      cases hw
  · rintro ⟨hs, a, ha⟩
    exact ⟨_, h.onInformation_ok hk hs ha now⟩

/-- What a taken N(R) has done. -/
theorem Tracks.of_acknowledge_ok (h : w.Tracks i) (hk : i.capacity < sequenceModulus)
    (hw : acknowledge r w = .ok () w') : ∃ a, i.Acks r a ∧ w' = w.release (a - i.acked) := by
  obtain ⟨a, ha⟩ := (h.acknowledge_iff hk r).1 ⟨w', hw⟩
  rw [h.acknowledge_ok hk ha] at hw
  cases hw
  exact ⟨a, ha, rfl⟩

/-- What a taken I-frame has done. -/
theorem Tracks.of_onInformation_ok (h : w.Tracks i) (hk : i.capacity < sequenceModulus)
    (hw : onInformation s r now w = .ok () w') :
    ∃ a, i.Acks r a ∧ w' = (w.release (a - i.acked)).countReceived now := by
  obtain ⟨hs, a, ha⟩ := (h.receive_iff hk s r now).1 ⟨w', hw⟩
  rw [h.onInformation_ok hk hs ha] at hw
  cases hw
  exact ⟨a, ha, rfl⟩

theorem Tracks.answersAs (h : w.Tracks i) (hk : i.capacity < sequenceModulus) : w.AnswersAs i where
  acknowledge_iff := h.acknowledge_iff hk
  target_unique _ _ _ ha hb := ha.unique (h.target_lt hk) hb
  releases r a w' ha hw := by
    rw [h.acknowledge_ok hk ha] at hw
    cases hw
    exact ⟨rfl, (h.release ha).numbers⟩
  receive_iff := h.receive_iff hk
  receives s r now a w' ha hw := by
    have hs := ((h.receive_iff hk s r now).1 ⟨w', hw⟩).1
    rw [h.onInformation_ok hk hs ha now] at hw
    cases hw
    have ht := (h.release ha).countReceived now
    exact ⟨ht.receiveCount, ht.numbers⟩
  acknowledge_error _ _ _ := eq_of_acknowledge_error
  receive_error _ _ _ _ _ := eq_of_onInformation_error

/-- **The window refines the ideal one** in every state that it can reach, for every width that the
number range allows. -/
theorem run_refines_ideal (p : Parameters) (hk : p.k ≤ 32767) (events : List WindowEvent) :
    ((IdealWindow.start p.k).run events).capacity = p.k ∧
      ((start p).run events).Tracks ((IdealWindow.start p.k).run events) ∧
      ((start p).run events).AnswersAs ((IdealWindow.start p.k).run events) := by
  have hc : (IdealWindow.start p.k).capacity < sequenceModulus := Nat.lt_succ_of_le hk
  have ht := (tracks_start p).run hc events
  have hr := IdealWindow.capacity_run (.start p.k) events
  exact ⟨hr, ht, ht.answersAs (by rw [hr]; exact hc)⟩

/-- A window of two frames that fills up, is acknowledged by an I-frame and refuses a stale number. -/
theorem run_refines_ideal_two :
    let p : Parameters := { k := 2 }
    let events : List WindowEvent :=
      [.send 0, .send 1, .send 2, .receive 0 1 3, .acknowledge 32767, .send 4]
    p.k ≤ 32767 ∧ (IdealWindow.start p.k).run events = ⟨2, 3, 1, 1⟩ ∧
      ((IdealWindow.start p.k).run events).capacity = p.k ∧
      ((start p).run events).Tracks ((IdealWindow.start p.k).run events) ∧
      ((start p).run events).AnswersAs ((IdealWindow.start p.k).run events) :=
  ⟨by decide, by decide, run_refines_ideal { k := 2 } (by decide) _⟩

end Window

end Telecontrol
