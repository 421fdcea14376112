import Telecontrol.Proofs.Session.Deadlines

/-!
# A silent peer

A session whose timers are handled whenever a deadline is reached finds out within t3 + t1 that its peer has
gone silent.

* `Clocked`, `Clocked.run`: a session by a clock that moves on to the next deadline at most.
* `Session.perform_ok`: what an operation does to the idle time and to the activations that await their
  confirmation.
* `Clocked.Watchful`: as long as no link test is under way the peer has been heard within t3, one lemma for
  every tick.
* `Clocked.silence_detected`: the main result.
-/

namespace Telecontrol

/-! ## Runs by a clock -/

/-- A session, the present instant and when the last frame came in. -/
structure Clocked where
  session : Session
  now : Millis
  heardAt : Millis
  deriving DecidableEq, Repr

/-- What happens to a session by a clock. -/
inductive Tick where
  | wait (span : Millis)
  | act (event : Session.Event)
  deriving DecidableEq, Repr

namespace Clocked

def start (p : Parameters) (now : Millis) : Clocked := ⟨.start p now, now, now⟩

/-- Time does not move on beyond a deadline. An operation that fails leaves the session as it was or ends the
link. -/
def step (c : Clocked) : Tick → Option Clocked
  | .wait span =>
    if c.now + span ≤ c.session.nextDeadline then some { c with now := c.now + span } else none
  | .act event =>
    let o := c.session.perform c.now event
    match o.result with
    | .ok _ => some { c with
        session := o.session
        heardAt := if event.received = [] then c.heardAt else c.now }
    | .error _ => if o.session = c.session then some c else none

def run (c : Clocked) (ticks : List Tick) : Option Clocked := ticks.foldlM step c

end Clocked

/-! ## The idle time and link tests -/

namespace Window

variable {w w' : Window} {n r : Nat} {now : Millis}

theorem parameters_of_acknowledge (h : acknowledge r w = .ok () w') : w'.parameters = w.parameters := by
  obtain ⟨-, text, he⟩ | ⟨-, he⟩ := acknowledge_eq r w _ rfl
  · rw [he] at h
    cases h
  · rw [he] at h
    cases h
    rfl

theorem parameters_of_onInformation (h : onInformation n r now w = .ok () w') :
    w'.parameters = w.parameters := by
  by_cases hn : n = w.receiveCount
  · rw [hn, onInformation_next] at h
    cases ha : acknowledge r w with
    | ok u v =>
      rw [ha] at h
      cases h
      have hp : v.parameters = w.parameters := parameters_of_acknowledge ha
      exact hp
    | error fault v =>
      rw [ha] at h
      cases h
  · rw [onInformation_mismatch hn] at h
    cases h

end Window

namespace Session

variable {s : Session} {now : Millis} {event : Event}

theorem receiveControl_idle (s : Session) (function : ControlFunction) (now : Millis) :
    let s' := (s.receiveControl function now).session
    s'.idleSince = s.idleSince ∧ s'.parameters = s.parameters ∧ s'.awaited ⊆ s.awaited := by
  cases function with
  | testAct =>
    simp only [receiveControl]
    obtain ⟨fault, h⟩ | ⟨-, h⟩ := sendControl_cases
      { s with traffic := { s.traffic with testAct := s.traffic.testAct + 1 } } .testCon now
    · rw [h]
      exact ⟨rfl, rfl, List.Subset.refl _⟩
    · rw [h]
      exact ⟨rfl, rfl, by simp [Outcome.andThen, Outcome.done, activated, sent, ControlFunction.confirmation]⟩
  | testCon => exact ⟨rfl, rfl, List.filter_subset_self _⟩
  | startCon => exact ⟨rfl, rfl, List.filter_subset_self _⟩
  | stopCon => exact ⟨rfl, rfl, List.filter_subset_self _⟩
  | _ => exact ⟨rfl, rfl, List.Subset.refl _⟩

/-- A reception ends the idle time and adds no activation. -/
theorem receive_ok {frame : Apdu} {inbound : Inbound} (h : (s.receive frame now).result = .ok inbound) :
    let s' := (s.receive frame now).session
    s'.idleSince = now ∧ s'.parameters = s.parameters ∧ s'.awaited ⊆ s.awaited := by
  obtain ⟨apci, asdu⟩ := frame
  cases apci with
  | information n r =>
    simp only [receive] at h ⊢
    cases hw : Window.onInformation n r now (s.counted now).window with
    | error fault w =>
      rw [hw] at h
      cases h
    | ok u w =>
      rw [hw] at h
      obtain ⟨v, ha, -⟩ := andThen_done_ok h
      obtain ⟨⟨hi, hm, hp⟩, -⟩ := acknowledgeIfDue_ok ha
      simp only [Outcome.andThen, ha]
      refine ⟨hi, hp.trans (Window.parameters_of_onInformation hw), fun a hs => ?_⟩
      rwa [Outcome.done, hm] at hs
  | supervisory r =>
    simp only [receive] at h ⊢
    cases hw : Window.acknowledge r (s.counted now).window with
    | error fault w =>
      rw [hw] at h
      cases h
    | ok u w => exact ⟨rfl, Window.parameters_of_acknowledge hw, List.Subset.refl _⟩
  | unnumbered function => exact receiveControl_idle (s.counted now) function now

/-- What an operation does to the idle time and to the activations that await their confirmation: a frame
that comes in ends the idle time and confirms; all else leaves the idle time alone, but for a link test
once it is over, and adds what was sent now. -/
theorem perform_ok (h : (s.perform now event).result = .ok ()) :
    let s' := (s.perform now event).session
    s'.parameters = s.parameters ∧
      ((event.received ≠ [] ∧ s'.idleSince = now ∧ s'.awaited ⊆ s.awaited) ∨
        (event.received = [] ∧
          (∃ sent, s'.awaited = s.awaited ++ sent ∧ ∀ a ∈ sent, a.deadline = now + s.parameters.t1) ∧
          (s'.idleSince = s.idleSince ∨ s.idleDeadline ≤ now ∧ s'.awaits .testAct = true))) := by
  cases event with
  | receive frame =>
    obtain ⟨inbound, hr, -⟩ := andThen_done_ok h
    obtain ⟨hi, hp, ha⟩ := receive_ok hr
    simp only [perform, Outcome.andThen, hr]
    exact ⟨hp, .inl ⟨List.cons_ne_nil _ _, hi, ha⟩⟩
  | sendControl function =>
    obtain ⟨fault, he⟩ | ⟨-, he⟩ := sendControl_cases s function now
    · rw [perform, he] at h
      cases h
    · rw [perform, he]
      refine ⟨rfl, .inr ⟨rfl, ⟨_, rfl, fun a ha => ?_⟩, .inl rfl⟩⟩
      obtain ⟨f, -, rfl⟩ := List.mem_map.1 ha
      rfl
  | sendInformation asdu =>
    rw [perform, sendInformation] at h ⊢
    split at h
    · rename_i hc
      obtain ⟨fault, he⟩ | ⟨-, he⟩ := write_cases
        { s with window := (s.window.prepareInformation now).2 }
        ⟨(s.window.prepareInformation now).1, some asdu⟩
      · simp only [he] at h
        cases h
      · simp only [if_pos hc, he]
        exact ⟨rfl, .inr ⟨rfl, ⟨[], (List.append_nil _).symm, List.forall_mem_nil _⟩, .inl rfl⟩⟩
    · cases h
  | timer =>
    obtain ⟨-, hh⟩ := onTimer_ok h
    refine ⟨hh.parameters, .inr ⟨rfl, hh.awaited, ?_⟩⟩
    exact hh.idle.imp (fun h => h.2) fun h => ⟨h.1, h.2.2⟩
  | breakStream => exact ⟨rfl, .inr ⟨rfl, ⟨[], (List.append_nil _).symm, List.forall_mem_nil _⟩, .inl rfl⟩⟩

end Session

namespace Clocked

open Session (Event)

variable {p : Parameters} {t₀ : Millis} {c c' : Clocked} {ticks : List Tick} {tick : Tick}

/-- A link test is under way that fails the link within t3 + t1 of the last reception. -/
def Tested (p : Parameters) (c : Clocked) : Prop :=
  ∃ a ∈ c.session.awaited, a.function = .testAct ∧ a.deadline ≤ c.heardAt + p.t3 + p.t1

/-- Without such a test the peer has been heard within t3. -/
structure Watchful (p : Parameters) (c : Clocked) : Prop where
  parameters : c.session.parameters = p
  awaited : ∀ a ∈ c.session.awaited, a.deadline ≤ c.now + p.t1
  heard : c.session.idleSince = c.heardAt ∧ c.now ≤ c.heardAt + p.t3 ∨ c.Tested p

theorem Watchful.start (p : Parameters) (t₀ : Millis) : (start p t₀).Watchful p where
  parameters := rfl
  awaited _ ha := absurd ha List.not_mem_nil
  heard := .inl ⟨rfl, Nat.le_add_right _ _⟩

theorem Watchful.wait (h : c.Watchful p) {span : Millis} (hd : c.now + span ≤ c.session.nextDeadline) :
    Watchful p { c with now := c.now + span } where
  parameters := h.parameters
  awaited a ha := by
    exact (h.awaited a ha).trans (Nat.add_le_add_right (Nat.le_add_right _ _) _)
  heard := by
    refine h.heard.imp_left fun ⟨hi, _⟩ => ⟨hi, ?_⟩
    have hn := hd.trans (Session.le_nextDeadline_iff.1 (Nat.le_refl _)).1
    rwa [Session.idleDeadline, h.parameters, hi] at hn

theorem Watchful.act (h : c.Watchful p) (event : Event)
    (ho : (c.session.perform c.now event).result = .ok ()) :
    Watchful p { c with
      session := (c.session.perform c.now event).session
      heardAt := if event.received = [] then c.heardAt else c.now } := by
  obtain ⟨hp, ⟨hf, hi, ha⟩ | ⟨hf, ⟨sent, he, hs⟩, hi⟩⟩ := Session.perform_ok ho
  · refine ⟨hp.trans h.parameters, fun a hm => h.awaited a (ha hm), .inl ?_⟩
    rw [if_neg hf]
    exact ⟨hi, Nat.le_add_right _ _⟩
  · rw [if_pos hf]
    have hd : ∀ a ∈ (c.session.perform c.now event).session.awaited, a.deadline ≤ c.now + p.t1 := by
      intro a hm
      rw [he] at hm
      obtain hm | hm := List.mem_append.1 hm
      · exact h.awaited a hm
      · rw [hs a hm, h.parameters]
    refine ⟨hp.trans h.parameters, hd, ?_⟩
    obtain ⟨hc, hn⟩ | ⟨a, hm, ht⟩ := h.heard
    · refine hi.imp (fun hi => ⟨hi.trans hc, hn⟩) fun ⟨_, ht⟩ => ?_
      -- The test was sent now or before, and by now no more than t3 have passed.
      obtain ⟨a, hm, hf⟩ := List.any_eq_true.1 ht
      exact ⟨a, hm, eq_of_beq hf, (hd a hm).trans (Nat.add_le_add_right hn _)⟩
    · exact .inr ⟨a, by rw [he]; exact List.mem_append_left _ hm, ht⟩

theorem Watchful.step (h : c.Watchful p) (hs : c.step tick = some c') : c'.Watchful p := by
  cases tick with
  | wait span =>
    rw [Clocked.step] at hs
    split at hs
    · rename_i hd
      cases hs
      exact h.wait hd
    · cases hs
  | act event =>
    simp only [Clocked.step] at hs
    split at hs
    · rename_i hr
      cases hs
      exact h.act event hr
    · split at hs
      · cases hs
        exact h
      · cases hs

theorem Watchful.run (h : c.Watchful p) (hr : c.run ticks = some c') : c'.Watchful p := by
  induction ticks generalizing c with
  | nil =>
    cases hr
    exact h
  | cons tick ticks ih =>
    rw [Clocked.run, List.foldlM_cons] at hr
    obtain ⟨d, hs, hr⟩ := Option.bind_eq_some_iff.1 hr
    exact ih (h.step hs) hr

/-- **A silent peer is detected within t3 + t1.** After any run in which time never passes a deadline that has
not been handled, timers that succeed find that the last frame came in less than t3 + t1 ago, and if it
came in t3 ago or earlier they leave a link test under way. In between a link test is under way whenever
more than t3 have passed. -/
theorem silence_detected (hv : p.validate = .ok ()) (hr : (start p t₀).run ticks = some c) :
    ((c.session.onTimer c.now).result = .ok () → c.now < c.heardAt + p.t3 + p.t1 ∧
      (c.heardAt + p.t3 ≤ c.now → (c.session.onTimer c.now).session.awaits .testAct = true)) ∧
    (c.heardAt + p.t3 < c.now → c.session.awaits .testAct = true) := by
  have hv := Parameters.Valid.of_validate hv
  have h := (Watchful.start p t₀).run hr
  constructor
  · intro ho
    have hn := Session.lt_nextDeadline_onTimer (h.parameters.symm ▸ hv.t1_pos)
      (h.parameters.symm ▸ hv.t3_pos) ho
    obtain ⟨h3, -, -, ha⟩ := Session.le_nextDeadline_iff.1 (Nat.succ_le_of_lt hn)
    obtain ⟨hi, -⟩ | ⟨a, hm, hf, hle⟩ := (h.act .timer ho).heard
    · -- No test is under way, so t3 have not passed yet.
      have hd : (c.session.onTimer c.now).session.idleDeadline = c.heardAt + p.t3 := by
        rw [Session.idleDeadline, (Session.onTimer_ok ho).2.parameters, h.parameters]
        exact congrArg (· + p.t3) hi
      rw [hd] at h3
      exact ⟨Nat.lt_add_right _ h3, fun hle => absurd h3 (Nat.not_lt_of_le hle)⟩
    · exact ⟨Nat.lt_of_lt_of_le (ha a hm) hle, fun _ => List.any_eq_true.2 ⟨a, hm, beq_iff_eq.2 hf⟩⟩
  · intro hn
    obtain ⟨-, hle⟩ | ⟨a, hm, hf, -⟩ := h.heard
    · exact absurd hle (Nat.not_le_of_lt hn)
    · exact List.any_eq_true.2 ⟨a, hm, beq_iff_eq.2 hf⟩

/-- With t1 < t3: the idle time ends at 20001, an activation is sent in between, and the last timers that
succeed are those at 25000. -/
theorem silence_detected_unanswered :
    let p : Parameters := { t1 := 5000 }
    let ticks : List Tick :=
      [.wait 1, .act (.receive (.unnumbered .testAct)), .wait 19000, .wait 1000, .act .timer,
        .wait 2000, .act (.sendControl .startAct), .wait 2999]
    p.validate = .ok () ∧ ∃ c, (start p 0).run ticks = some c ∧ c.now = 25000 ∧ c.heardAt = 1 ∧
      (c.session.onTimer c.now).result = .ok () ∧
      c.now < c.heardAt + p.t3 + p.t1 ∧ (c.session.onTimer c.now).session.awaits .testAct = true ∧
      c.session.awaits .testAct = true ∧ (c.session.onTimer 25001).result = .error .t1Timeout := by
  intro p ticks
  have he : ((start p 0).run ticks).map (fun c => (c.now, c.heardAt, (c.session.onTimer c.now).result,
      (c.session.onTimer 25001).result)) = some (25000, 1, .ok (), .error .t1Timeout) := by decide
  obtain ⟨c, hc, he⟩ := Option.map_eq_some_iff.1 he
  obtain ⟨hn, hh, ho, ht⟩ : _ ∧ _ ∧ _ ∧ _ := by simpa only [Prod.mk.injEq] using he
  have hd := silence_detected (p := p) rfl hc
  have hl : c.heardAt + p.t3 < c.now := by rw [hn, hh]; decide
  exact ⟨rfl, c, hc, hn, hh, ho, (hd.1 ho).1, (hd.1 ho).2 (Nat.le_of_lt hl), hd.2 hl, ht⟩

end Clocked

end Telecontrol
