import Telecontrol.Proofs.Link.Chronicle
import Telecontrol.Proofs.Session.Deadlines

/-!
# Acknowledgement before t1

Two ends that receive every frame at once and handle their timers whenever a deadline is reached acknowledge
each other's I-frames before t1 runs out, if t2 is shorter than t1.

* `ClockedLink`, `ClockedLink.run`: a link by a clock that moves on where nothing is in flight, and no further
  than the next deadline of either end.
* `Log.Current`: no I-frame has waited for its acknowledgement for t1; `Log.Follows`: what one end has received
  came in when the other one sent it.
* `ClockedLink.Prompt`: the invariant, one lemma for either kind of tick.
* `ClockedLink.acknowledged_in_time`: the main result.
* `ClockedLink.first_fails`: with t2 as long as t1 or longer, the first I-frame fails the link.
-/

namespace Telecontrol

/-! ## Runs by a clock -/

/-- A link and the present instant. -/
structure ClockedLink where
  link : Link
  now : Millis

/-- What happens to a link by a clock. -/
inductive LinkTick where
  | wait (span : Millis)
  | act (side : Side) (action : Action)
  deriving DecidableEq, Repr

def LinkTick.Admissible : LinkTick → Prop
  | wait _ => True
  | act _ action => action.Admissible

namespace ClockedLink

/-- A link between two fresh sessions with the same parameters. -/
def start (p : Parameters) (now : Millis) : ClockedLink := ⟨.start p p now now, now⟩

/-- Time moves on where all frames have been received, and not beyond a deadline of either end. -/
def step (c : ClockedLink) : LinkTick → Option ClockedLink
  | .wait span =>
    if (c.link.toLeft = [] ∧ c.link.toRight = []) ∧ c.now + span ≤ c.link.left.session.nextDeadline ∧
        c.now + span ≤ c.link.right.session.nextDeadline then
      some { c with now := c.now + span }
    else none
  | .act side action => some { c with link := c.link.step ⟨side, c.now, action⟩ }

def run (c : ClockedLink) (ticks : List LinkTick) : Option ClockedLink := ticks.foldlM step c

end ClockedLink

/-! ## Logs by a clock -/

namespace Log

variable {a b log more : Log} {t1 now : Millis}

theorem informationTimes_now (direction : Direction) (hm : ∀ x ∈ more, x.time = now) :
    ∃ n, more.informationTimes direction = List.replicate n now := by
  refine ⟨_, List.eq_replicate_of_mem fun t ht => ?_⟩
  obtain ⟨x, hx, rfl⟩ := List.mem_map.1 ((informationTimes_sublist direction more).subset ht)
  exact hm x hx

/-- By the time `now`, no I-frame has waited for its acknowledgement for t1. -/
structure Current (t1 now : Millis) (log : Log) : Prop where
  sorted : log.sentTimes.Pairwise (· ≤ ·)
  le_now : ∀ t ∈ log.sentTimes, t ≤ now
  fresh : ∀ n t, log.sentTimes[n]? = some t → ¬ log.Acknowledged n → now < t + t1

theorem Current.nil (t1 now : Millis) : Current t1 now [] :=
  ⟨.nil, nofun, fun _ _ h => by cases h⟩

/-- What is sent now has not waited yet. -/
theorem Current.append (h : log.Current t1 now) (h1 : 0 < t1) (hm : ∀ x ∈ more, x.time = now) :
    Current t1 now (log ++ more) := by
  obtain ⟨n, he⟩ := informationTimes_now .sent hm
  have hs : sentTimes (log ++ more) = log.sentTimes ++ List.replicate n now := by
    rw [sentTimes, informationTimes_append, he]
    rfl
  refine ⟨?_, ?_, fun j t ht ha => ?_⟩
  · rw [hs, List.pairwise_append]
    refine ⟨h.sorted, List.pairwise_replicate.2 (.inr (Nat.le_refl _)), fun t ht t' ht' => ?_⟩
    rw [List.eq_of_mem_replicate ht']
    exact h.le_now t ht
  · rw [hs]
    refine List.forall_mem_append.2 ⟨h.le_now, fun t ht => ?_⟩
    rw [List.eq_of_mem_replicate ht]
  · rw [hs] at ht
    obtain hj | hj := Nat.lt_or_ge j log.sentTimes.length
    · rw [List.getElem?_append_left hj] at ht
      exact h.fresh j t ht fun hn => ha (hn.append more)
    · rw [List.getElem?_append_right hj] at ht
      rw [List.eq_of_mem_replicate (List.mem_of_getElem? ht)]
      exact Nat.lt_add_of_pos_right h1

/-- Of the I-frames that the end with the log `a` sent, those that the end with the log `b` has received came
in when they were sent, and all others were sent now. -/
def Follows (now : Millis) (b a : Log) : Prop :=
  ∃ n, a.sentTimes = b.receivedTimes ++ List.replicate n now

theorem Follows.append_sender (h : b.Follows now a) (hm : ∀ x ∈ more, x.time = now) :
    b.Follows now (a ++ more) := by
  obtain ⟨n, h⟩ := h
  obtain ⟨m, he⟩ := informationTimes_now .sent hm
  refine ⟨n + m, ?_⟩
  rw [sentTimes, informationTimes_append, he, ← sentTimes, h, List.append_assoc,
    List.replicate_append_replicate]

theorem Follows.append_receiver (h : b.Follows now a) (hm : ∀ x ∈ more, x.time = now)
    (hle : (receivedTimes (b ++ more)).length ≤ a.sentTimes.length) : Follows now (b ++ more) a := by
  obtain ⟨n, h⟩ := h
  obtain ⟨m, he⟩ := informationTimes_now .received hm
  have hr : receivedTimes (b ++ more) = b.receivedTimes ++ List.replicate m now := by
    rw [receivedTimes, informationTimes_append, he]
    rfl
  have hmn : m ≤ n := by
    rw [hr, h, List.length_append, List.length_append, List.length_replicate, List.length_replicate] at hle
    exact Nat.le_of_add_le_add_left hle
  refine ⟨n - m, ?_⟩
  rw [h, hr, List.append_assoc, List.replicate_append_replicate, Nat.add_sub_cancel' hmn]

end Log

/-- A session by whose log no I-frame has waited for t1 does not report one. -/
theorem Session.Recalls.t1Expired_eq_false {p : Parameters} {s : Session} {log : Log} {now : Millis}
    (h : s.Recalls p log) (hc : log.Current p.t1 now) : s.window.t1Expired now = false := by
  obtain ⟨i, hi⟩ := h.window
  refine Bool.eq_false_iff.2 fun ht => ?_
  obtain ⟨n, t, hn, hle, ha⟩ := (hi.t1Expired_iff hc.sorted).1 ht
  rw [show s.window.parameters = p from h.parameters] at hle
  exact absurd (hc.fresh n t hn ha) (Nat.not_lt_of_le hle)

/-- With nothing in flight, time may pass until the other end's t2 runs out: what waits for its
acknowledgement at this end is what came in at the other one and is not acknowledged, and t2 is shorter than
t1. -/
theorem Chronicle.current_later {p q : Parameters} {s t : Session} {a b : Log} {now later : Millis}
    (h : Chronicle p s a [] [] q t b) (hc : a.Current p.t1 now) (hf : b.Follows now a) (ht : q.t2 < p.t1)
    (hle : now ≤ later) (hd : later ≤ t.nextDeadline) : a.Current p.t1 later ∧ b.Follows later a := by
  have hs : a.sentTimes = b.receivedTimes := by
    obtain ⟨n, hf⟩ := hf
    have hl := congrArg List.length hf
    rw [List.length_append, List.length_replicate, h.outgoing.settled.1, Nat.left_eq_add] at hl
    rw [hf, hl, List.replicate_zero, List.append_nil]
  refine ⟨⟨hc.sorted, fun t ht => (hc.le_now t ht).trans hle, fun n sent hn ha => ?_⟩, 0, ?_⟩
  · have hg : b.granted ≤ n := Nat.le_of_not_lt fun hlt => ha ((h.incoming.settled.2 n).2 hlt)
    have hm : sent ∈ b.unacknowledged := by
      rw [← b.drop_granted, ← hs]
      refine List.mem_of_getElem? (i := n - b.granted) ?_
      rwa [List.getElem?_drop, Nat.add_sub_cancel' hg]
    have hsorted : b.unacknowledged.Pairwise (· ≤ ·) :=
      (hs ▸ hc.sorted).sublist b.unacknowledged_suffix.sublist
    cases hu : b.unacknowledged with
    | nil =>
      rw [hu] at hm
      cases hm
    | cons first rest =>
      rw [hu] at hm hsorted
      have hfirst : first ≤ sent := by
        obtain rfl | hm := List.mem_cons.1 hm
        · exact Nat.le_refl _
        · exact List.rel_of_pairwise_cons hsorted hm
      have hack : t.window.ackDeadline = some (first + q.t2) := by
        rw [h.there.recalls.ackDeadline_eq, hu]
        rfl
      have hdue : later ≤ first + q.t2 := (Session.le_nextDeadline_iff.1 hd).2.2.1 _ hack
      calc later ≤ first + q.t2 := hdue
        _ ≤ sent + q.t2 := Nat.add_le_add_right hfirst _
        _ < sent + p.t1 := Nat.add_lt_add_left ht _
  · rw [hs, List.replicate_zero, List.append_nil]

namespace ClockedLink

variable {p : Parameters} {t₀ : Millis} {c c' : ClockedLink} {ticks : List LinkTick} {tick : LinkTick}
  {a b : Log}

/-- Both ends hold what their logs tell, no I-frame has waited for t1, and what is received is received when it
was sent. -/
structure Prompt (p : Parameters) (c : ClockedLink) (a b : Log) : Prop where
  chronicled : c.link.Chronicled p p a b
  left : a.Current p.t1 c.now
  right : b.Current p.t1 c.now
  toRight : b.Follows c.now a
  toLeft : a.Follows c.now b

theorem prompt_start (hk : p.k < Apci.sequenceModulus) (t₀ : Millis) : (start p t₀).Prompt p [] [] where
  chronicled := Link.chronicled_start hk hk t₀ t₀
  left := .nil p.t1 t₀
  right := .nil p.t1 t₀
  toRight := ⟨0, rfl⟩
  toLeft := ⟨0, rfl⟩

theorem Prompt.wait (h : c.Prompt p a b) (ht : p.t2 < p.t1) {span : Millis}
    (hn : c.link.toLeft = [] ∧ c.link.toRight = []) (hl : c.now + span ≤ c.link.left.session.nextDeadline)
    (hr : c.now + span ≤ c.link.right.session.nextDeadline) :
    Prompt p { c with now := c.now + span } a b := by
  have hc := h.chronicled.chronicle
  rw [hn.1, hn.2] at hc
  have hle : c.now ≤ c.now + span := Nat.le_add_right _ _
  obtain ⟨hleft, hright⟩ := hc.current_later h.left h.toRight ht hle hr
  obtain ⟨hleft', hright'⟩ := hc.swap.current_later h.right h.toLeft ht hle hl
  exact ⟨h.chronicled, hleft, hleft', hright, hright'⟩

theorem Prompt.act (h : c.Prompt p a b) (h1 : 0 < p.t1) (side : Side) {action : Action}
    (ha : action.Admissible) :
    ∃ a b, Prompt p { c with link := c.link.step ⟨side, c.now, action⟩ } a b := by
  obtain ⟨more, later, hm, hl, hs⟩ := h.chronicled.step (m := ⟨side, c.now, action⟩) ha
  have hc := hs.chronicle
  refine ⟨a ++ more, b ++ later, hs, h.left.append h1 hm, h.right.append h1 hl, ?_, ?_⟩
  · exact (h.toRight.append_sender hm).append_receiver hl hc.outgoing.length_receivedTimes_le
  · exact (h.toLeft.append_sender hl).append_receiver hm hc.incoming.length_receivedTimes_le

theorem Prompt.step (h : c.Prompt p a b) (h1 : 0 < p.t1) (ht : p.t2 < p.t1) (ha : tick.Admissible)
    (hs : c.step tick = some c') : ∃ a b, c'.Prompt p a b := by
  cases tick with
  | wait span =>
    rw [ClockedLink.step] at hs
    split at hs
    · rename_i hw
      cases hs
      exact ⟨a, b, h.wait ht hw.1 hw.2.1 hw.2.2⟩
    · cases hs
  | act side action =>
    cases hs
    exact h.act h1 side ha

theorem Prompt.run (h : c.Prompt p a b) (h1 : 0 < p.t1) (ht : p.t2 < p.t1)
    (ha : ∀ tick ∈ ticks, tick.Admissible) (hr : c.run ticks = some c') : ∃ a b, c'.Prompt p a b := by
  induction ticks generalizing c a b with
  | nil =>
    cases hr
    exact ⟨a, b, h⟩
  | cons tick ticks ih =>
    rw [ClockedLink.run, List.foldlM_cons] at hr
    obtain ⟨d, hs, hr⟩ := Option.bind_eq_some_iff.1 hr
    obtain ⟨a, b, h⟩ := h.step h1 ht (ha tick (by simp)) hs
    exact ih h (fun tick hm => ha tick (by simp [hm])) hr

/-- **I-frames are acknowledged before t1 runs out.** Between two ends with the same valid parameters, t2
shorter than t1, that receive every frame at once and handle their timers whenever a deadline is reached, no
I-frame ever waits for its acknowledgement for t1: where the timers of an end report t1, it is an activation
that has waited for its confirmation. -/
theorem acknowledged_in_time (hv : p.validate = .ok ()) (ht : p.t2 < p.t1)
    (ha : ∀ tick ∈ ticks, tick.Admissible) (hr : (start p t₀).run ticks = some c) :
    ∀ e ∈ [c.link.left, c.link.right], e.session.window.t1Expired c.now = false ∧
      ((e.session.onTimer c.now).result = .error .t1Timeout → ∃ x ∈ e.session.awaited, x.deadline ≤ c.now) := by
  have hv := Parameters.Valid.of_validate hv
  obtain ⟨a, b, h⟩ := (prompt_start (Nat.lt_succ_of_le hv.k_le) t₀).run hv.t1_pos ht ha hr
  have hc := h.chronicled.chronicle
  have hw : ∀ e ∈ [c.link.left, c.link.right], e.session.window.t1Expired c.now = false := by
    simp only [List.forall_mem_cons]
    exact ⟨hc.here.recalls.t1Expired_eq_false h.left, hc.there.recalls.t1Expired_eq_false h.right, nofun⟩
  refine fun e he => ⟨hw e he, fun ho => ?_⟩
  rw [Session.onTimer_t1Timeout_iff, Session.t1Expired, hw e he, Bool.false_or, List.any_eq_true] at ho
  obtain ⟨x, hx, hd⟩ := ho
  exact ⟨x, hx, of_decide_eq_true hd⟩

/-- With t2 just shorter than t1, the acknowledgement is there when t1 would have run out. -/
theorem acknowledged_in_time_tight :
    let p : Parameters := { t1 := 10001 }
    let ticks : List LinkTick :=
      [.act .left (.send [1]), .act .right .receive, .wait 10000, .act .right .timer, .act .left .receive,
        .wait 1]
    (p.validate = .ok () ∧ p.t2 < p.t1 ∧ ∀ tick ∈ ticks, tick.Admissible) ∧
      ∃ c, (start p 0).run ticks = some c ∧ c.now = 10001 ∧
        ∀ e ∈ [c.link.left, c.link.right], e.session.window.t1Expired c.now = false ∧
          ((e.session.onTimer c.now).result = .error .t1Timeout →
            ∃ x ∈ e.session.awaited, x.deadline ≤ c.now) := by
  intro p ticks
  have ha : ∀ tick ∈ ticks, tick.Admissible := by
    simp [ticks, LinkTick.Admissible, Action.Admissible, Apdu.maxAsduLength, Apdu.maxLength, Apdu.minLength]
  have he : ((start p 0).run ticks).map (·.now) = some 10001 := by decide
  obtain ⟨c, hc, hn⟩ := Option.map_eq_some_iff.1 he
  exact ⟨⟨rfl, by decide, ha⟩, c, hc, hn, acknowledged_in_time (p := p) rfl (by decide) ha hc⟩

/-! ## Where t2 is not shorter than t1 -/

/-- One I-frame that is received at once, and the instant at which its t1 runs out. -/
def firstFrame (p : Parameters) : List LinkTick :=
  [.act .left (.send [1]), .act .right .receive, .wait p.t1]

/-- The first I-frame fails the link, although it was handed up and no activation awaits its confirmation. -/
def FirstFails (p : Parameters) : Prop :=
  (∀ tick ∈ firstFrame p, tick.Admissible) ∧ ∃ c, (start p 0).run (firstFrame p) = some c ∧
    c.link.right.delivered = [[1]] ∧ c.link.left.session.awaited = [] ∧
    (c.link.left.session.onTimer c.now).result = .error .t1Timeout

/-- The end that has sent the first I-frame. -/
def firstSender (p : Parameters) : Endpoint where
  session := ({ Session.start p 0 with window := ((Window.start p).prepareInformation 0).2 } : Session).sent
  accepted := [[1]]

/-- The session that has received it. -/
def firstReceived (p : Parameters) : Session :=
  { (Session.start p 0).counted 0 with window := ((Window.start p).release (0 - 0)).countReceived 0 }

/-- The end that has received it. -/
def firstReceiver (p : Parameters) : Endpoint := { session := firstReceived p, delivered := [[1]] }

/-- The first reception of a session is not acknowledged at once. -/
theorem receive_first (hv : p.Valid) : (Session.start p 0).receive (.information 0 0 [1]) 0 =
    .done (firstReceived p) (.asdu [1]) := by
  have hk : p.k < Apci.sequenceModulus := Nat.lt_succ_of_le hv.k_le
  have hw : Window.onInformation 0 0 0 (Window.start p) =
      .ok () (((Window.start p).release (0 - 0)).countReceived 0) :=
    (Window.tracks_start p).onInformation_ok hk rfl ⟨Nat.le_refl 0, Nat.le_refl 0, rfl⟩ 0
  have hd : (((Window.start p).release (0 - 0)).countReceived 0).ackRequired 0 = false := by
    refine Window.ackRequired_eq_false_iff.2 ⟨hv.w_pos, fun d hd => ?_⟩
    cases hd
    exact Nat.lt_add_left 0 hv.t2_pos
  simp only [Session.receive, Apdu.information, Session.counted, Session.start, hw,
    Session.acknowledgeIfDue, hd]
  rfl

theorem step_send_first (hv : p.Valid) : (start p 0).step (.act .left (.send [1])) =
    some ⟨{ left := firstSender p, right := .start p 0, toRight := Apdu.wire [.information 0 0 [1]] }, 0⟩ := by
  have hc : (Session.start p 0).window.canSend = true := decide_eq_true hv.k_pos
  have hs : (Session.start p 0).sendInformation [1] 0 = _ :=
    Session.sendInformation_ok rfl hc (by decide) (by decide)
  simp only [step, Link.step, Endpoint.act, start, Link.start, Endpoint.start, hs]
  rfl

theorem step_receive_first (hv : p.Valid) :
    step ⟨{ left := firstSender p, right := .start p 0, toRight := Apdu.wire [.information 0 0 [1]] }, 0⟩
      (.act .right .receive) = some ⟨{ left := firstSender p, right := firstReceiver p }, 0⟩ := by
  have hn : (Apdu.information 0 0 [1]).Normal := ⟨by decide, by decide⟩
  have hr : (Endpoint.start p 0).act 0 (Apdu.wire [.information 0 0 [1]]) .receive = _ :=
    Conversation.act_receive _ 0 hn
  rw [show (Apdu.information 0 0 [1]).reduced = .information 0 0 [1] from rfl, Endpoint.start,
    receive_first hv] at hr
  simp only [step, Link.step, Endpoint.start, hr]
  rfl

/-- Nothing is due before t1: neither t2 nor t3 has run out. -/
theorem step_wait_first (h2 : p.t1 ≤ p.t2) (h3 : p.t1 ≤ p.t3) :
    step ⟨{ left := firstSender p, right := firstReceiver p }, 0⟩ (.wait p.t1) =
      some ⟨{ left := firstSender p, right := firstReceiver p }, 0 + p.t1⟩ := by
  refine if_pos ⟨⟨rfl, rfl⟩, ?_, ?_⟩
  · refine Session.le_nextDeadline_iff.2 ⟨Nat.add_le_add_left h3 0, fun d hd => ?_,
      fun _ hd => absurd hd (Option.not_mem_none _), List.forall_mem_nil _⟩
    cases hd
    exact Nat.le_refl _
  · refine Session.le_nextDeadline_iff.2 ⟨Nat.add_le_add_left h3 0,
      fun _ hd => absurd hd (Option.not_mem_none _), fun d hd => ?_, List.forall_mem_nil _⟩
    cases hd
    exact Nat.add_le_add_left h2 0

/-- With valid parameters and t1 no longer than t2 and t3, the first I-frame fails the link. -/
theorem first_fails (hv : p.validate = .ok ()) (h2 : p.t1 ≤ p.t2) (h3 : p.t1 ≤ p.t3) : FirstFails p := by
  have hv := Parameters.Valid.of_validate hv
  refine ⟨?_, ⟨{ left := firstSender p, right := firstReceiver p }, 0 + p.t1⟩, ?_, rfl, rfl, ?_⟩
  · simp [firstFrame, LinkTick.Admissible, Action.Admissible, Apdu.maxAsduLength, Apdu.maxLength,
      Apdu.minLength]
  · simp only [run, firstFrame, List.foldlM_cons, step_send_first hv, step_receive_first hv,
      step_wait_first h2 h3, Option.bind_eq_bind, Option.bind_some]
    rfl
  · have ht : (firstSender p).session.t1Expired (0 + p.t1) = true := by
      rw [Session.t1Expired, Bool.or_eq_true]
      exact .inl (decide_eq_true (Nat.le_refl _))
    rw [Session.onTimer_expired ht]
    rfl

/-- Valid parameters with t2 longer than t1 and with t2 as long as t1. -/
theorem acknowledged_late :
    let longer : Parameters := { t1 := 5000 }
    let equal : Parameters := { t1 := 10000 }
    (longer.validate = .ok () ∧ longer.t1 < longer.t2 ∧ FirstFails longer) ∧
      equal.validate = .ok () ∧ equal.t1 = equal.t2 ∧ FirstFails equal :=
  ⟨⟨rfl, by decide, first_fails rfl (by decide) (by decide)⟩, rfl, rfl,
    first_fails rfl (by decide) (by decide)⟩

end ClockedLink

end Telecontrol
