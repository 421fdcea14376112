import Telecontrol.Proofs.Outstation.Queue

/-!
# No wake-up is lost

Data do not stay behind: when nothing is left to do, the active connection has sent all that its window
allows, in whatever order data were queued, windows opened and the data transfer moved.

* `Outstation.Attentive`: a connection that could send has nothing to send, or will hear of it.
* `Outstation.Alert`: all are attentive; `Outstation.Alert.change`: every change keeps that.
* `Outstation.Parked`: nothing is left to do. `Outstation.interleave_not_stuck`: the main statement.
-/

namespace Telecontrol

namespace Outstation

variable {o o' : Outstation} {now : Millis} {id : Nat} {c c' : StationConnection}
  {effects : List StationEffect} {pushed : List Asdu}

/-- A connection is going to hear of the data in the queue, or there are none. -/
def Heard (o : Outstation) (c : StationConnection) : Prop :=
  o.queue.items = [] ∨ 0 < o.waking ∨ c.id ∈ o.woken ∨ c.commands ≠ []

/-- If a connection is active, waits and could send, it has no response to send and hears of queued
data. -/
def Attentive (o : Outstation) (c : StationConnection) : Prop :=
  ∀ link, c.active = true → c.phase = .serving link → link.point = .waiting →
    link.session.window.canSend = true → link.outbox = [] ∧ o.Heard c

/-- All connections are attentive. -/
def Alert (o : Outstation) : Prop := ∀ c ∈ o.connections, o.Attentive c

theorem heard_of_commands (h : c.commands ≠ []) : o.Heard c := .inr (.inr (.inr h))

theorem heard_ask (o : Outstation) {link : StationLink} (hl : c.phase = .serving link)
    (command : TaskCommand) : o.Heard (c.ask command) := by
  rw [StationConnection.ask, if_pos (StationConnection.isRegistered_of_link hl)]
  exact heard_of_commands (by simp)

/-- What else changes, a connection stays attentive if it still hears of queued data. -/
theorem Attentive.imp (h : o.Attentive c) (hh : o.Heard c → o'.Heard c) : o'.Attentive c := by
  intro link ha hl hp hs
  obtain ⟨ho, hc⟩ := h link ha hl hp hs
  exact ⟨ho, hh hc⟩

/-- A connection that is asked to do something hears of queued data. -/
theorem Attentive.ask (h : o.Attentive c) (o' : Outstation) (command : TaskCommand) :
    o'.Attentive (c.ask command) := by
  intro link ha hl hp hs
  rw [c.phase_ask] at hl
  rw [c.active_ask] at ha
  exact ⟨(h link ha hl hp hs).1, heard_ask o' hl command⟩

theorem Attentive.begins (h : o.Attentive c) (hb : c.Begins o now effects c') : o.Attentive c' := by
  cases hb with
  | @stream link link' hl' hp' ho hw =>
    intro _ ha hl hp hs
    cases hl
    obtain ⟨hn, hh⟩ := h link ha hl' (hp'.symm.trans hp) (hw ▸ hs)
    exact ⟨ho.trans hn, hh⟩
  | handed =>
    intro link ha hl hp hs
    exact ⟨(h link ha hl hp hs).1, heard_of_commands (by simp)⟩
  | asked => exact h.ask o _
  | abandoned | ended => nofun
  | _ =>
    intro _ ha hl hp
    cases hl
    cases hp

/-- A task only begins to wait when it cannot send or nothing is left to send. -/
theorem attentive_proceeds {queue : OutboundQueue} (h : c.Proceeds o now effects c' queue) :
    Attentive { o with queue } c' := by
  intro link' ha hl hp hs
  cases h with
  | inactive hc hp' ha' => cases ha'.symm.trans ha
  | rested hc hp' hn =>
    cases hl
    obtain ⟨ho, hq⟩ := hn hs
    exact ⟨ho, .inl hq⟩
  | sent hc hp' hs' hn hr =>
    cases hl
    obtain ⟨_, -, -, rfl, -⟩ | ⟨_, -, -, -, rfl, -⟩ := nextAsdu?_eq_some hn
    · cases hp'.symm.trans hp
    · cases hp'.symm.trans hp
  | unconfirmed | unsent => cases hl
  | _ => cases hl; cases hp

/-- The queue of an outstation only becomes empty while tasks go on. -/
theorem Heard.proceeds {queue : OutboundQueue} {d : StationConnection}
    (h : c.Proceeds o now effects c' queue) (hd : o.Heard d) : Heard { o with queue } d := by
  refine hd.imp_left fun hq => ?_
  have hi := departures_proceeds h
  rw [hq] at hi
  exact (List.append_eq_nil_iff.1 hi.symm).2

/-- Waking another connection makes no difference. -/
theorem Heard.erase (h : o.Heard c) (hi : c.id ≠ id) :
    Heard { o with woken := o.woken.erase id } c := by
  obtain h | h | h | h := h
  · exact .inl h
  · exact .inr (.inl h)
  · exact .inr (.inr (.inl ((List.mem_erase_of_ne hi).2 h)))
  · exact heard_of_commands h

/-- A connection is put back; the others stay as attentive as they were. -/
theorem alert_put (hc : o.connection? id = some c) (hi : c'.id = c.id) (h : Attentive o' c')
    (hother : ∀ d ∈ o.connections, d.id ≠ id → Attentive o' d) :
    ∀ d ∈ (o.put c').connections, o'.Attentive d := by
  intro d hd
  rcases (mem_put ⟨c, mem_of_connection? hc, hi.symm⟩).1 hd with rfl | ⟨hd, hdi⟩
  · exact h
  · rw [hi, id_of_connection? hc] at hdi
    exact hother d hd hdi

/-- The only active connection is about to confirm the start of its data transfer. -/
theorem alert_activate (hs : o.Sound) (hc : o.connection? id = some c) {link : StationLink}
    (hl : c.phase = .serving link) :
    ((o.put (c.withLink { link with point := .confirming .startCon })).activate c.id).1.Alert := by
  obtain rfl := id_of_connection? hc
  have hk : c.Keeps (c.withLink { link with point := .confirming .startCon }) :=
    .withLink rfl (fun h => h) (StationConnection.isRegistered_of_link hl) rfl
  have hput := connection?_put hc (d := c.withLink { link with point := .confirming .startCon }) rfl
  intro d hd link' ha hl' hp
  have hi := (hs.put hc hk).id_of_active_activate hd ha
  have hf := (connection?_eq_some_iff ((hs.put hc hk).activate hput rfl).distinct).2 ⟨hd, hi⟩
  rw [connection?_activate, hput, Option.map_some] at hf
  rw [← Option.some.inj hf, afterActivation_phase] at hl'
  cases hl'
  cases hp

theorem Alert.change (h : o.Alert) (hs : o.Sound) (hc : Change o now pushed effects o') :
    o'.Alert := by
  cases hc with
  | idle | refused | handlers => exact h
  | admitted => exact List.forall_mem_append.2 ⟨h, List.forall_mem_singleton.2 nofun⟩
  | @begins id c c' _ hc hb =>
    have hm := mem_of_connection? hc
    exact alert_put hc hb.keeps.id ((h c hm).begins hb) fun d hd _ => h d hd
  | @proceeds id c c' _ queue hc hb =>
    have hc' : Attentive { o with queue } c' := attentive_proceeds hb
    refine alert_put (o := { o with queue }) hc hb.keeps.id hc' fun d hd _ => ?_
    refine (h d hd).imp fun hh => ?_
    have hh' := hh.proceeds hb
    exact hh'
  | activated hc hl => exact alert_activate hs hc hl
  | pushed asdu =>
    -- a connection is still to be looked up, so the active one need not know yet
    exact fun d hd => (h d hd).imp fun _ => .inr (.inl (Nat.succ_pos _))
  | lookedUp hw =>
    -- whoever could be the last to hear of it is active, and that is whom the outstation finds
    intro d hd link ha hl hp hsend
    obtain ⟨ho, -⟩ := h d hd link ha hl hp hsend
    refine ⟨ho, .inr (.inr (.inl (List.mem_append_right _ ?_)))⟩
    rw [hs.activeConnection_eq_some_iff.2 ⟨hd, ha⟩]
    exact List.mem_singleton_self _
  | @woke id c hi hc =>
    have hm := mem_of_connection? hc
    refine alert_put (o := { o with woken := o.woken.erase id }) hc (c.id_ask _)
      ((h c hm).ask _ .wake) fun d hd hdi => ?_
    exact (h d hd).imp fun hh => hh.erase hdi
  | @wokeNone id hi hc =>
    intro d hd
    have hdi : d.id ≠ id := fun hd' => List.find?_eq_none.1 hc d hd (beq_iff_eq.2 hd')
    exact (h d hd).imp fun hh => hh.erase hdi

theorem alert_interleave (config : OutstationConfig) (handlers : Handlers)
    (moves : List (Millis × Move)) : ((create config handlers).interleave moves).1.Alert := by
  induction moves using List.reverseRecOn with
  | nil => exact List.forall_mem_nil _
  | append_singleton moves m ih =>
    rw [interleave, history_concat, ← interleave]
    exact ih.change (sound_interleave config handlers moves) (change_move _ m.1 m.2)

/-- Nothing is left to do: no connection is still to be looked up or woken, no command waits, and every
task waits for a frame that is not complete. -/
structure Parked (o : Outstation) : Prop where
  waking : o.waking = 0
  woken : o.woken = []
  commands : ∀ c ∈ o.connections, c.commands = []
  waiting : ∀ c ∈ o.connections, ∀ link, c.phase = .serving link →
    link.point = .waiting ∧ Apdu.decode link.inbound = .incomplete

/-- **Data do not get stuck.** Whatever has happened, and in any order: when nothing is left to do and
the active connection has fewer than `k` frames that await their acknowledgement, the queue is empty and
no response of it waits. -/
theorem interleave_not_stuck (config : OutstationConfig) (handlers : Handlers)
    (moves : List (Millis × Move)) :
    let o := ((create config handlers).interleave moves).1
    o.Parked → ∀ c ∈ o.connections, c.active = true →
      ∃ link, c.phase = .serving link ∧
        (link.session.window.outstanding.size < link.session.parameters.k →
          o.queue.items = [] ∧ link.outbox = []) := by
  intro o h c hm ha
  obtain ⟨link, hl⟩ := (sound_interleave config handlers moves).serving c hm ha
  refine ⟨link, hl, fun hk => ?_⟩
  obtain ⟨ho, hq | hw | hi | hcs⟩ := alert_interleave config handlers moves c hm link ha hl
    (h.waiting c hm link hl).1 (decide_eq_true hk)
  · exact ⟨hq, ho⟩
  · exact absurd h.waking (Nat.ne_of_gt hw)
  · rw [h.woken] at hi
    cases hi
  · exact absurd (h.commands c hm) hcs

/-- An ASDU is queued and the first connection is looked up for it, then the second one becomes active, and
only then the first is woken. -/
theorem interleave_not_stuck_moved :
    let startAct : Octets := [0x68, 4, 7, 0, 0, 0]
    let moves : List (Millis × Move) :=
      [(0, .begin (.accept "first" none)), (0, .begin (.accept "second" none)),
        (0, .begin (.handshake 1 true)), (0, .proceed 1), (0, .begin (.handshake 2 true)),
        (0, .proceed 2), (1, .begin (.arrive 1 startAct)), (1, .begin (.readable 1)),
        (1, .proceed 1), (1, .proceed 1), (1, .proceed 1), (1, .proceed 1),
        (2, .begin (.arrive 2 startAct)), (2, .begin (.readable 2)),
        (2, .begin (.enqueue (.empty {} .spontaneous 1))), (2, .lookUp), (2, .proceed 2), (2, .wake 1),
        (2, .proceed 2), (2, .proceed 2), (2, .proceed 2), (2, .proceed 2),
        (3, .begin (.command 1)), (3, .proceed 1)]
    let o := ((create {} {}).interleave moves).1
    o.Parked ∧ ∃ c ∈ o.connections, c.id = 2 ∧ c.active = true ∧ ∃ link, c.phase = .serving link ∧
      link.session.window.outstanding.size = 1 ∧ o.queue.items = [] ∧ link.outbox = [] := by
  intro startAct moves
  have hp : ((create {} {}).interleave moves).1.Parked := by
    have hw : ∀ c ∈ ((create {} {}).interleave moves).1.connections, ∀ link ∈ c.link?,
        link.point = .waiting ∧ link.inbound = [] := by decide
    refine ⟨by decide, by decide, by decide, fun c hc link hl => ?_⟩
    have hl : c.link? = some link := by rw [StationConnection.link?, hl]
    obtain ⟨hpt, hi⟩ := hw c hc link hl
    exact ⟨hpt, hi ▸ rfl⟩
  obtain ⟨c, hc, hi, ha, hk⟩ : ∃ c ∈ ((create {} {}).interleave moves).1.connections, c.id = 2 ∧
      c.active = true ∧ ∀ link ∈ c.link?,
        link.session.window.outstanding.size = 1 ∧ link.session.parameters.k = 12 := by decide
  obtain ⟨link, hl, hq⟩ := interleave_not_stuck {} {} moves hp c hc ha
  obtain ⟨hsize, hwindow⟩ := hk link (by rw [StationConnection.link?, hl]; rfl)
  exact ⟨hp, c, hc, hi, ha, link, hl, hsize, hq (by omega)⟩

end Outstation

end Telecontrol
