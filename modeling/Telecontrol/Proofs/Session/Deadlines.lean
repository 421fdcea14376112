import Telecontrol.Proofs.Session.Acknowledgement
import Telecontrol.Proofs.Session.Supervision

/-!
# Deadlines of a session

The instant at which a session wants its timers handled, and what handling them does: nothing before that
instant, and after it the next instant lies in the future.

* `Session.le_nextDeadline_iff`: the next deadline against the four timers that it is made of.
* `Session.onTimer_of_lt`: the timers handled too early.
* `Session.Handled`, `Session.onTimer_ok`: what the timers leave behind where they succeed.
* `Course.timers_match_deadline`: both, in every state that a run reaches.
-/

namespace Telecontrol

/-! ## Timers that have not run out -/

theorem any_le_eq_false_iff {d : Option Millis} {now : Millis} :
    d.any (· ≤ now) = false ↔ ∀ t ∈ d, now < t := by
  cases d <;> simp

theorem Window.ackRequired_eq_false_iff {w : Window} {now : Millis} :
    w.ackRequired now = false ↔ w.unconfirmed ≤ w.parameters.w ∧ ∀ d ∈ w.ackDeadline, now < d := by
  rw [ackRequired, Bool.or_eq_false_iff, any_le_eq_false_iff, decide_eq_false_iff_not, Nat.not_lt]

namespace Session

variable {s : Session} {now t : Millis} {u : Unit}

theorem t1Expired_eq_false_iff : s.t1Expired now = false ↔
    (∀ d ∈ s.window.t1Deadline, now < d) ∧ ∀ a ∈ s.awaited, now < a.deadline := by
  rw [t1Expired, Bool.or_eq_false_iff, Window.t1Expired, any_le_eq_false_iff]
  simp

/-! ## The next deadline -/

theorem le_foldl_min {l : List Millis} {first : Millis} :
    t ≤ l.foldl min first ↔ t ≤ first ∧ ∀ d ∈ l, t ≤ d := by
  induction l generalizing first with
  | nil => simp
  | cons d l ih => rw [List.foldl_cons, ih, le_min_iff, List.forall_mem_cons, and_assoc]

/-- The next deadline is the earliest of those of t3, of t1 for I-frames, of t2 and of t1 for
activations. -/
theorem le_nextDeadline_iff : t ≤ s.nextDeadline ↔ t ≤ s.idleDeadline ∧
    (∀ d ∈ s.window.t1Deadline, t ≤ d) ∧ (∀ d ∈ s.window.ackDeadline, t ≤ d) ∧
      ∀ a ∈ s.awaited, t ≤ a.deadline := by
  rw [nextDeadline, le_foldl_min]
  simp only [List.forall_mem_append, List.forall_mem_map, Option.mem_toList, Option.mem_def, and_assoc]

theorem t1Expired_eq_false_of_lt (h : now < s.nextDeadline) : s.t1Expired now = false := by
  obtain ⟨-, h1, -, ha⟩ := le_nextDeadline_iff.1 (Nat.succ_le_of_lt h)
  exact t1Expired_eq_false_iff.2 ⟨h1, ha⟩

/-- The timers of a session that is within its window, handled too early. -/
theorem onTimer_of_lt (hu : s.window.unconfirmed ≤ s.parameters.w) (h : now < s.nextDeadline) :
    s.onTimer now = .done s () := by
  obtain ⟨h3, -, h2, -⟩ := le_nextDeadline_iff.1 (Nat.succ_le_of_lt h)
  have hx : s.t1Expired now = false := t1Expired_eq_false_of_lt h
  have hd : s.window.ackRequired now = false := Window.ackRequired_eq_false_iff.2 ⟨hu, h2⟩
  have hi : ¬ s.idleDeadline ≤ now := Nat.not_le_of_lt h3
  rw [onTimer, hx, if_neg Bool.false_ne_true, acknowledgeIfDue, hd, if_neg Bool.false_ne_true]
  show s.testIfIdle now = _
  rw [testIfIdle, if_neg hi]

/-! ## What the timers leave behind -/

/-- From `s` the timers have led to `s'` at `now`: nothing is to be acknowledged by now, only link tests have
been sent, and if the idle time was over it starts anew while a link test is under way. -/
structure Handled (now : Millis) (s s' : Session) : Prop where
  parameters : s'.parameters = s.parameters
  t1Deadline : s'.window.t1Deadline = s.window.t1Deadline
  ackDeadline : ∀ d ∈ s'.window.ackDeadline, now < d
  awaited : ∃ tests, s'.awaited = s.awaited ++ tests ∧ ∀ a ∈ tests, a.deadline = now + s.parameters.t1
  idle : now < s.idleDeadline ∧ s'.idleSince = s.idleSince ∨
    s.idleDeadline ≤ now ∧ s'.idleSince = now ∧ s'.awaits .testAct = true

theorem acknowledgeIfDue_ok (h : (s.acknowledgeIfDue now).result = .ok u) :
    let s' := (s.acknowledgeIfDue now).session
    (s'.idleSince = s.idleSince ∧ s'.awaited = s.awaited ∧ s'.parameters = s.parameters) ∧
      s'.window.t1Deadline = s.window.t1Deadline ∧ ∀ d ∈ s'.window.ackDeadline, now < d := by
  cases hd : s.window.ackRequired now with
  | true =>
    rw [acknowledgeIfDue, if_pos hd] at h ⊢
    obtain ⟨fault, hw⟩ | ⟨-, hw⟩ := sendSupervisory_cases s
    · rw [hw] at h
      cases h
    · rw [hw]
      exact ⟨⟨rfl, rfl, rfl⟩, rfl, fun _ hd => absurd hd (Option.not_mem_none _)⟩
  | false =>
    rw [acknowledgeIfDue, hd, if_neg Bool.false_ne_true]
    exact ⟨⟨rfl, rfl, rfl⟩, rfl, (Window.ackRequired_eq_false_iff.1 hd).2⟩

theorem testIfIdle_ok (hd : ∀ d ∈ s.window.ackDeadline, now < d) (h : (s.testIfIdle now).result = .ok u) :
    Handled now s (s.testIfIdle now).session := by
  by_cases hi : s.idleDeadline ≤ now
  · rw [testIfIdle, if_pos hi] at h ⊢
    dsimp only at h ⊢
    split at h
    · rename_i ht
      rw [if_pos ht]
      exact ⟨rfl, rfl, hd, ⟨[], (List.append_nil _).symm, List.forall_mem_nil _⟩, .inr ⟨hi, rfl, ht⟩⟩
    · rename_i ht
      rw [if_neg ht]
      obtain ⟨fault, he⟩ | ⟨-, he⟩ := sendControl_cases { s with idleSince := now } .testAct now
      · rw [he] at h
        cases h
      · rw [he]
        refine ⟨rfl, rfl, hd, ⟨[⟨.testAct, now + s.parameters.t1⟩], rfl, fun a ha => ?_⟩,
          .inr ⟨hi, rfl, ?_⟩⟩
        · rw [List.mem_singleton.1 ha]
        · simp [awaits, activated, ControlFunction.confirmation]
  · rw [testIfIdle, if_neg hi]
    exact ⟨rfl, rfl, hd, ⟨[], (List.append_nil _).symm, List.forall_mem_nil _⟩,
      .inl ⟨Nat.lt_of_not_le hi, rfl⟩⟩

theorem onTimer_ok (h : (s.onTimer now).result = .ok u) :
    s.t1Expired now = false ∧ Handled now s (s.onTimer now).session := by
  cases hx : s.t1Expired now with
  | true =>
    rw [onTimer_expired hx] at h
    cases h
  | false =>
    rw [onTimer, hx, if_neg Bool.false_ne_true, Outcome.andThen] at h ⊢
    refine ⟨rfl, ?_⟩
    split at h
    · cases h
    · rename_i v ha
      obtain ⟨⟨hs, hw, hp⟩, ht, hd⟩ := acknowledgeIfDue_ok ha
      have hh := testIfIdle_ok hd h
      refine ⟨hh.parameters.trans hp, hh.t1Deadline.trans ht, hh.ackDeadline, ?_, ?_⟩
      · rw [← hw, ← hp]
        exact hh.awaited
      · have hi : (s.acknowledgeIfDue now).session.idleDeadline = s.idleDeadline := by
          rw [idleDeadline, hs, hp, idleDeadline]
        rw [← hi, ← hs]
        exact hh.idle

/-- Once the timers are handled, the next deadline lies in the future. -/
theorem lt_nextDeadline_onTimer (h1 : 0 < s.parameters.t1) (h3 : 0 < s.parameters.t3)
    (h : (s.onTimer now).result = .ok u) : now < (s.onTimer now).session.nextDeadline := by
  obtain ⟨hx, hh⟩ := onTimer_ok h
  obtain ⟨ht, ha⟩ := t1Expired_eq_false_iff.1 hx
  refine le_nextDeadline_iff.2 ⟨?_, ?_, hh.ackDeadline, fun a hm => ?_⟩
  · rw [idleDeadline, hh.parameters]
    obtain ⟨hi, hs⟩ | ⟨-, hs, -⟩ := hh.idle
    · rw [hs]
      exact hi
    · rw [hs]
      exact Nat.lt_add_of_pos_right h3
  · rw [hh.t1Deadline]
    exact ht
  · obtain ⟨tests, he, hn⟩ := hh.awaited
    rw [he] at hm
    obtain hm | hm := List.mem_append.1 hm
    · exact ha a hm
    · rw [hn a hm]
      exact Nat.lt_add_of_pos_right h1

end Session

namespace Course

open Session (Event)

variable {p : Parameters} {t₀ : Millis} {c : Course} {events : List (Millis × Event)}

/-- **The timers match the deadline.** In every state that a run reaches, the timers do nothing before the
next deadline, and once they have been handled the next deadline lies in the future. -/
theorem timers_match_deadline (hv : p.validate = .ok ()) (hr : (start p t₀).run events = some c)
    (now : Millis) :
    (now < c.session.nextDeadline → c.session.onTimer now = .done c.session ()) ∧
    ((c.session.onTimer now).result = .ok () → now < (c.session.onTimer now).session.nextDeadline) := by
  have hv := Parameters.Valid.of_validate hv
  have hk : p.k < Apci.sequenceModulus := Nat.lt_succ_of_le hv.k_le
  have hp : c.session.parameters = p := (recalls_run hk hr).parameters
  constructor
  · intro h
    exact Session.onTimer_of_lt (hp.symm ▸ unconfirmed_le_run hk hr) h
  · intro h
    exact Session.lt_nextDeadline_onTimer (hp.symm ▸ hv.t1_pos) (hp.symm ▸ hv.t3_pos) h

/-- An activation that awaits its confirmation, an I-frame that awaits its acknowledgement and one that is to
be acknowledged first. -/
theorem timers_match_deadline_mixed :
    let events : List (Millis × Event) :=
      [(0, .sendControl .stopAct), (1, .sendInformation [1]), (2, .receive (.information 0 0 [2]))]
    ∃ c, (start {} 0).run events = some c ∧ c.session.nextDeadline = 10002 ∧
      c.session.onTimer 10001 = .done c.session () ∧
      (c.session.onTimer 10002).written = [.supervisory 1] ∧
      10002 < (c.session.onTimer 10002).session.nextDeadline := by
  intro events
  have he : ((start {} 0).run events).map (fun c => (c.session.nextDeadline,
      (c.session.onTimer 10002).written, (c.session.onTimer 10002).result)) =
      some (10002, [.supervisory 1], .ok ()) := by decide
  obtain ⟨c, hc, he⟩ := Option.map_eq_some_iff.1 he
  obtain ⟨hn, hw, ho⟩ : _ ∧ _ ∧ _ := by simpa only [Prod.mk.injEq] using he
  have hd : 10001 < c.session.nextDeadline := by rw [hn]; decide
  exact ⟨c, hc, hn, (timers_match_deadline (p := {}) rfl hc 10001).1 hd, hw,
    (timers_match_deadline (p := {}) rfl hc 10002).2 ho⟩

end Course

end Telecontrol
