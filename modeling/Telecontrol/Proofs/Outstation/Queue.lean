import Telecontrol.Proofs.Outstation.Rest

/-!
# What becomes of queued data

The queue of an outstation gives ASDUs away in the order in which it got them: to the task of the active
connection, or to nobody when it is full.

* `OutboundQueue.push_items`: what the queue holds when it gets an ASDU.
* `Outstation.Fate`, `Outstation.departures`: what became of the ASDUs that have left the queue, in order.
* `Outstation.enqueued_interleave`: those that have left the queue, followed by those that wait, are all
  that it ever got.
* `Outstation.run_queue_in_order`: the main statement, about runs in which no task is interrupted.
-/

namespace Telecontrol

/-! ## The queue -/

namespace OutboundQueue

theorem push_items (q : OutboundQueue) (asdu : Asdu) :
    q.items ++ [asdu] = (q.push asdu).2.toList ++ (q.push asdu).1.items := by
  unfold push
  split
  · cases q.items <;> rfl
  · rfl

theorem push_capacity (q : OutboundQueue) (asdu : Asdu) :
    (q.push asdu).1.capacity = q.capacity := by
  unfold push
  split <;> rfl

theorem push_size_le {q : OutboundQueue} (hc : 0 < q.capacity) (hs : q.size ≤ q.capacity)
    (asdu : Asdu) : (q.push asdu).1.size ≤ q.capacity := by
  unfold push
  split <;> simp only [size, List.length_append, List.length_drop, List.length_singleton] at *
  all_goals omega

/-- Only a full queue drops an ASDU, and it drops the oldest one. -/
theorem push_eq_some_iff (q : OutboundQueue) (asdu : Asdu) {oldest : Asdu} :
    (q.push asdu).2 = some oldest ↔ q.capacity ≤ q.size ∧ q.items.head? = some oldest := by
  unfold push
  split
  · exact ⟨fun h => ⟨‹_›, h⟩, fun h => h.2⟩
  · exact ⟨nofun, fun h => absurd h.1 ‹_›⟩

end OutboundQueue

namespace Outstation

variable {o o' : Outstation} {now : Millis} {c c' : StationConnection}
  {effects : List StationEffect} {pushed : List Asdu}

/-! ## Departures -/

/-- What becomes of an ASDU in the queue: it waits, the task of a connection has taken it to send
it, or it made room for another one. -/
inductive Fate where
  | waiting
  | handed (id : Nat)
  | dropped
  deriving DecidableEq, Repr, Inhabited

/-- The ASDUs that have left the queue, in order, with what became of them. -/
def departures (effects : List StationEffect) : List (Asdu × Fate) :=
  effects.filterMap fun
    | .taken c .queue asdu => some (asdu, .handed c.id)
    | .dropped asdu => some (asdu, .dropped)
    | _ => none

theorem departures_append (effects more : List StationEffect) :
    departures (effects ++ more) = departures effects ++ departures more :=
  List.filterMap_append

theorem departures_of_plain (h : ∀ e ∈ effects, e.Plain) : departures effects = [] := by
  refine List.filterMap_eq_nil_iff.2 fun e he => ?_
  cases e with
  | taken c source asdu => cases h _ he
  | dropped asdu => cases h _ he
  | _ => rfl

theorem departures_push (o : Outstation) (asdu : Asdu) :
    (departures (o.push asdu).2).map (·.1) = (o.queue.push asdu).2.toList := by
  simp only [departures, push, List.filterMap_map]
  cases (o.queue.push asdu).2 <;> rfl

theorem departures_proceeds {queue : OutboundQueue} (h : c.Proceeds o now effects c' queue) :
    o.queue.items = (departures effects).map (·.1) ++ queue.items := by
  obtain ⟨hp, rfl⟩ | ⟨link, source, asdu, link', more, -, -, -, hn, rfl, hm⟩ := h.plain_or_takes
  · rw [departures_of_plain hp]
    rfl
  · have hd : departures (.taken c source asdu :: more) = departures [.taken c source asdu] := by
      rw [← List.singleton_append, departures_append, departures_of_plain hm, List.append_nil]
    rw [hd]
    obtain ⟨later, -, rfl, -, rfl⟩ | ⟨later, -, hq, rfl, -, rfl⟩ := nextAsdu?_eq_some hn
    · rfl
    · exact hq

/-- What the queue held and gets is what leaves it, followed by what it holds then. -/
theorem Change.items (hc : Change o now pushed effects o') :
    o.queue.items ++ pushed = (departures effects).map (·.1) ++ o'.queue.items := by
  cases hc with
  | admitted ha =>
    obtain rfl | rfl := ha
    all_goals exact List.append_nil _
  | begins hc hb =>
    rw [departures_of_plain hb.plain]
    exact List.append_nil _
  | proceeds hc hp =>
    rw [List.append_nil]
    exact departures_proceeds hp
  | activated =>
    rw [departures_of_plain (plain_activate _ _)]
    exact List.append_nil _
  | pushed asdu =>
    rw [departures_push]
    exact o.queue.push_items asdu
  | _ => exact List.append_nil _

/-- In every interleaving. -/
theorem enqueued_interleave (config : OutstationConfig) (handlers : Handlers)
    (moves : List (Millis × Move)) :
    let step := (create config handlers).interleave moves
    moves.flatMap (·.2.enqueued) = (departures step.2).map (·.1) ++ step.1.queue.items := by
  refine history_induction (o := create config handlers) (P := fun moves o effects =>
    moves.flatMap (·.2.enqueued) = (departures effects).map (·.1) ++ o.queue.items) rfl
    (fun moves o effects m h => ?_) moves
  rw [List.flatMap_append, List.flatMap_singleton, h, List.append_assoc,
    (change_move o m.1 m.2).items, departures_append, List.map_append, List.append_assoc]

/-! ## Room -/

theorem Change.capacity_eq (hc : Change o now pushed effects o') :
    o'.queue.capacity = o.queue.capacity := by
  cases hc with
  | proceeds hc hp =>
    obtain ⟨-, rfl⟩ | ⟨_, _, _, _, _, -, -, -, hn, -⟩ := hp.plain_or_takes
    · rfl
    · obtain ⟨_, _, _, _, rfl⟩ | ⟨_, _, _, _, _, rfl⟩ := nextAsdu?_eq_some hn
      · rfl
      · rfl
  | pushed asdu => exact o.queue.push_capacity asdu
  | _ => rfl

theorem Change.size_le (hc : Change o now pushed effects o') (h : 0 < o.queue.capacity)
    (hs : o.queue.size ≤ o.queue.capacity) : o'.queue.size ≤ o.queue.capacity := by
  have hi := congrArg List.length hc.items
  rw [List.length_append, List.length_append] at hi
  cases hc with
  | pushed asdu => exact OutboundQueue.push_size_le h hs asdu
  | _ =>
    rw [List.length_nil] at hi
    unfold OutboundQueue.size at hs ⊢
    omega

theorem size_interleave_le (config : OutstationConfig) (handlers : Handlers)
    (moves : List (Millis × Move)) :
    let o := ((create config handlers).interleave moves).1
    o.queue.capacity = max config.maxQueueSize 1 ∧ o.queue.size ≤ o.queue.capacity := by
  refine history_induction (o := create config handlers) (P := fun _ o _ =>
    o.queue.capacity = max config.maxQueueSize 1 ∧ o.queue.size ≤ o.queue.capacity)
    ⟨rfl, Nat.zero_le _⟩ (fun _ o _ m ⟨hc, hs⟩ => ?_) moves
  have hm := change_move o m.1 m.2
  have h : 0 < o.queue.capacity := by omega
  exact ⟨hm.capacity_eq.trans hc, hm.capacity_eq ▸ hm.size_le h hs⟩

/-! ## Victims -/

theorem Change.not_dropped (hc : Change o now [] effects o') (v : Asdu) : .dropped v ∉ effects := by
  intro hv
  cases hc with
  | admitted ha =>
    obtain rfl | rfl := ha
    all_goals simp at hv
  | begins hc hb => exact hb.plain _ hv
  | proceeds hc hp =>
    obtain ⟨h, -⟩ | ⟨_, _, _, _, more, -, -, -, -, rfl, h⟩ := hp.plain_or_takes
    · exact h _ hv
    · rcases List.mem_cons.1 hv with hv | hv
      · cases hv
      · exact h _ hv
  | activated => exact plain_activate _ _ _ hv
  | _ => simp at hv

theorem not_dropped_interleave {moves : List (Millis × Move)}
    (hm : moves.flatMap (·.2.enqueued) = []) (v : Asdu) : .dropped v ∉ (o.interleave moves).2 := by
  revert hm
  refine history_induction (o := o) (P := fun moves _ effects =>
    moves.flatMap (·.2.enqueued) = [] → .dropped v ∉ effects) (fun _ => List.not_mem_nil)
    (fun moves o effects m h hm hv => ?_) moves
  rw [List.flatMap_append, List.flatMap_singleton, List.append_eq_nil_iff] at hm
  rcases List.mem_append.1 hv with hv | hv
  · exact h hm.1 hv
  · have hc := change_move o m.1 m.2
    rw [hm.2] at hc
    exact hc.not_dropped v hv

theorem dropped_push {asdu v : Asdu} : .dropped v ∈ (o.turn now (.push asdu)).2 ↔
    o.queue.capacity ≤ o.queue.size ∧ o.queue.items.head? = some v := by
  rw [← o.queue.push_eq_some_iff asdu]
  simp [turn, push]

/-- Only a turn in which a full queue gets an ASDU drops one, and that is the oldest. -/
theorem dropped_turn {t : Turn} {v : Asdu} (h : .dropped v ∈ (o.turn now t).2) :
    (∃ asdu, t.enqueued = [asdu]) ∧ o.queue.capacity ≤ o.queue.size ∧
      o.queue.items.head? = some v := by
  -- a turn is made of moves that queue nothing unless it does
  have hquiet : t.enqueued = [] → .dropped v ∉ (o.turn now t).2 := by
    intro ht
    obtain ⟨moves, hm, hq⟩ := turn_eq_interleave o now t
    rw [hm]
    exact not_dropped_interleave (hq.trans ht) v
  cases t with
  | push asdu => exact ⟨⟨asdu, rfl⟩, dropped_push.1 h⟩
  | lookUp => exact absurd h (hquiet rfl)
  | wake id => exact absurd h (hquiet rfl)
  | whole input =>
    cases input with
    | enqueue asdu =>
      have h : .dropped v ∈ (o.turn now (.push asdu)).2 ++ [] := h
      rw [List.append_nil] at h
      exact ⟨⟨asdu, rfl⟩, dropped_push.1 h⟩
    | _ => exact absurd h (hquiet rfl)

/-! ## The main statement -/

/-- The ASDUs from the queue that tasks took to send them, in order, with the connections. -/
def handedOver (effects : List StationEffect) : List (Nat × Asdu) :=
  effects.filterMap fun
    | .taken c .queue asdu => some (c.id, asdu)
    | _ => none

theorem mem_handedOver {id : Nat} {asdu : Asdu} :
    (id, asdu) ∈ handedOver effects ↔ ∃ c, c.id = id ∧ .taken c .queue asdu ∈ effects := by
  constructor
  · intro h
    obtain ⟨e, he, hs⟩ := List.mem_filterMap.1 h
    split at hs
    · cases hs
      exact ⟨_, rfl, he⟩
    · cases hs
  · rintro ⟨c, rfl, he⟩
    exact List.mem_filterMap.2 ⟨_, he, rfl⟩

theorem handedOver_eq (effects : List StationEffect) :
    handedOver effects = (departures effects).filterMap fun
      | (asdu, .handed id) => some (id, asdu)
      | _ => none := by
  rw [handedOver, departures, List.filterMap_filterMap]
  refine List.filterMap_congr fun e _ => ?_
  cases e with
  | taken c source asdu => cases source <;> rfl
  | _ => rfl

theorem map_handedOver (effects : List StationEffect) :
    (handedOver effects).map (·.2) = ((departures effects).filter (·.2 ≠ .dropped)).map (·.1) := by
  induction effects with
  | nil => rfl
  | cons e later ih =>
    cases e with
    | taken c source asdu =>
      cases source with
      | outbox => exact ih
      | queue => exact congrArg (asdu :: ·) ih
    | _ => exact ih

/-- **Queued data are sent at most once, in order, and lost only when the queue is full.** The ASDUs that
have left the queue, followed by those that wait in it, are those that the application put into it, in
that order; without the dropped ones they are those that tasks took, followed by those that wait. The
queue keeps its bound, and drops an ASDU only to get another one when it is full, namely the oldest.
When a task takes an ASDU from the queue, its connection is active, has room in its window and has no
response to send. -/
theorem run_queue_in_order (config : OutstationConfig) (handlers : Handlers)
    (turns : List (Millis × Turn)) :
    let step := (create config handlers).run turns
    let o := step.1
    let room := max config.maxQueueSize 1
    let entries := departures step.2 ++ o.queue.items.map fun asdu => (asdu, .waiting)
    entries.map (·.1) = turns.flatMap (·.2.enqueued) ∧
      (handedOver step.2).map (·.2) ++ o.queue.items =
        (entries.filter (·.2 ≠ .dropped)).map (·.1) ∧
      (handedOver step.2 = entries.filterMap fun
        | (asdu, .handed id) => some (id, asdu)
        | _ => none) ∧
      o.queue.items.length ≤ room ∧
      (∀ now t v, .dropped v ∈ (o.turn now t).2 →
        (∃ asdu, t.enqueued = [asdu]) ∧ o.queue.items.length = room ∧
          o.queue.items.head? = some v) ∧
      ∀ c asdu, .taken c .queue asdu ∈ step.2 → c.active = true ∧
        ∃ link, c.phase = .serving link ∧ link.session.window.canSend = true ∧ link.outbox = [] := by
  intro step o room entries
  obtain ⟨moves, hm, hq⟩ := run_eq_interleave (create config handlers) turns
  have hall : turns.flatMap (·.2.enqueued) = (departures step.2).map (·.1) ++ o.queue.items := by
    have := enqueued_interleave config handlers moves
    rw [← hm, hq] at this
    exact this
  obtain ⟨hroom, hsize⟩ : o.queue.capacity = room ∧ o.queue.size ≤ o.queue.capacity := by
    have := size_interleave_le config handlers moves
    rw [← hm] at this
    exact this
  refine ⟨?_, ?_, ?_, hroom ▸ hsize, fun now t v hv => ?_, fun c asdu hc => ?_⟩
  · rw [hall, List.map_append, List.map_map]
    exact congrArg _ (List.map_id _)
  · rw [map_handedOver, List.filter_append, List.map_append, List.filter_map, List.map_map]
    simp [Function.comp_def]
  · rw [handedOver_eq, List.filterMap_append, List.filterMap_map]
    simp
  · obtain ⟨he, hfull, hhead⟩ := dropped_turn hv
    exact ⟨he, Nat.le_antisymm (hroom ▸ hsize) (hroom ▸ hfull), hhead⟩
  · obtain ⟨ha, link, hl, hs, ho⟩ := (rested_run config handlers turns).2 c .queue asdu hc
    exact ⟨ha, link, hl, hs, ho rfl⟩

/-- A queue of two, and a window of one frame: the first ASDU is sent, the second and the third wait, the
fourth makes the second go, and the fifth would make the third go. -/
theorem run_queue_in_order_full :
    let p : Parameters := { k := 1 }
    let asdu (n : UInt16) : Asdu := .empty p .spontaneous n
    let turns : List (Millis × Turn) :=
      [(0, .whole (.accept "master" none)), (0, .whole (.handshake 1 true)),
        (1, .whole (.arrive 1 [0x68, 4, 7, 0, 0, 0])), (1, .whole (.readable 1)),
        (2, .push (asdu 1)), (2, .lookUp), (2, .wake 1), (2, .whole (.command 1)),
        (3, .whole (.enqueue (asdu 2))), (3, .push (asdu 3)), (3, .push (asdu 4))]
    let step := (create { parameters := p, maxQueueSize := 2 } {}).run turns
    let o := step.1
    departures step.2 = [(asdu 1, .handed 1), (asdu 2, .dropped)] ∧
      (.dropped (asdu 3) ∈ (o.turn 4 (.push (asdu 5))).2 ∧ o.queue.items.length = 2 ∧
        o.queue.items.head? = some (asdu 3)) ∧
      ∃ c, .taken c .queue (asdu 1) ∈ step.2 ∧ c.active = true ∧
        ∃ link, c.phase = .serving link ∧ link.session.window.canSend = true ∧ link.outbox = [] := by
  intro p asdu turns
  obtain ⟨-, -, -, -, hdropped, htaken⟩ :=
    run_queue_in_order { parameters := p, maxQueueSize := 2 } {} turns
  refine ⟨by decide, ?_, ?_⟩
  · suffices hd : StationEffect.dropped (asdu 3) ∈ _ from ⟨hd, (hdropped 4 (.push (asdu 5)) _ hd).2⟩
    exact dropped_push.2 ⟨by decide, by decide⟩
  · have ht : (1, asdu 1) ∈
        handedOver ((create { parameters := p, maxQueueSize := 2 } {}).run turns).2 := by decide
    obtain ⟨c, -, ht⟩ := mem_handedOver.1 ht
    exact ⟨c, ht, htaken c _ ht⟩

end Outstation

end Telecontrol
