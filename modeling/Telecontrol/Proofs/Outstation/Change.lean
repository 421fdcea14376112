import Telecontrol.Proofs.Outstation.Connections
import Telecontrol.Proofs.Outstation.Interleaving
import Telecontrol.Proofs.Session.Frames

/-!
# What a move changes

Every move of an outstation, told as a change of one connection, of the queue or of both. What holds of
all changes holds of all interleavings, so that the invariants need not look into the moves.

* `StationConnection.Begins`: what can happen to a connection while its task waits, or at any time.
* `StationConnection.Proceeds`: what its task can do next.
* `Outstation.Change`: what can happen to an outstation. `Outstation.change_move`: nothing else does.
-/

namespace Telecontrol

/-- A frame of the connection `id`, other than one that carries an ASDU to its master. -/
def StationEffect.Bare (id : Nat) : StationEffect → Prop
  | .received i _ => i = id
  | .sent i frame => i = id ∧ frame.asdu = none
  | _ => False

/-- An effect that neither lets a master in nor takes an ASDU away from where it waits. -/
def StationEffect.Plain : StationEffect → Prop
  | .asked | .admitted _ | .taken .. | .dropped _ => False
  | _ => True

theorem StationEffect.Bare.plain {e : StationEffect} {id : Nat} (h : e.Bare id) : e.Plain := by
  cases e <;> trivial

namespace StationConnection

open Outstation (sentFrames performCalls nextAsdu?)

/-- The connection when its stream has been let go. -/
def letGo (c : StationConnection) (s : Session) : StationConnection :=
  { c with active := false, phase := .ended s.traffic, commands := [] }

theorem isRegistered_of_link {c : StationConnection} {link : StationLink}
    (hc : c.phase = .serving link) : c.isRegistered = true := by
  rw [isRegistered, hc]

theorem phase_of_link? {c : StationConnection} {link : StationLink} (h : c.link? = some link) :
    c.phase = .serving link := by
  unfold link? at h
  split at h
  · cases h
    assumption
  · cases h

theorem link?_of_serving {c : StationConnection} {link : StationLink} (hc : c.phase = .serving link) :
    c.link? = some link := by
  rw [link?, hc]

theorem link?_eq_none {c : StationConnection} (hc : ∀ link, c.phase ≠ .serving link) :
    c.link? = none := by
  unfold link?
  split
  · exact absurd ‹_› (hc _)
  · rfl

theorem phase_ask (c : StationConnection) (command : TaskCommand) : (c.ask command).phase = c.phase := by
  unfold ask
  split <;> rfl

theorem link?_ask (c : StationConnection) (command : TaskCommand) : (c.ask command).link? = c.link? := by
  rw [link?, phase_ask, link?]

theorem id_ask (c : StationConnection) (command : TaskCommand) : (c.ask command).id = c.id := by
  unfold ask
  split <;> rfl

theorem active_ask (c : StationConnection) (command : TaskCommand) :
    (c.ask command).active = c.active := by
  unfold ask
  split <;> rfl

/-- The command that a handler's action leaves for the task. -/
def commandOf : HandlerAction → TaskCommand
  | .send asdu => .send asdu
  | .close => .close

/-- On the active connection every action of a handler goes well. -/
theorem perform_of_active {c : StationConnection} (ha : c.active = true) (hr : c.isRegistered = true)
    (actions : List HandlerAction) :
    c.perform actions =
      ({ c with commands := c.commands ++ actions.map commandOf }, actions.map fun _ => .ok ()) := by
  induction actions generalizing c with
  | nil =>
    rw [List.map_nil, List.append_nil]
    rfl
  | cons action later ih =>
    cases action with
    | send asdu =>
      have := ih (c := { c with commands := c.commands ++ [.send asdu] }) ha hr
      simp only [perform, send, if_pos ha, this, List.map_cons, commandOf, List.append_assoc,
        List.singleton_append]
    | close =>
      have := ih (c := { c with commands := c.commands ++ [.close] }) ha hr
      simp only [perform, close, ask, if_pos hr, this, List.map_cons, commandOf, List.append_assoc,
        List.singleton_append]

/-- What a dispatch on the active connection leaves behind. -/
theorem performCalls_of_active {c : StationConnection} (ha : c.active = true)
    (hr : c.isRegistered = true) (asdu : Asdu) (calls : List HandlerCall) :
    performCalls c asdu calls =
      ({ c with commands := c.commands ++ (calls.flatMap (·.answer.actions)).map commandOf },
        calls.flatMap fun call =>
          (call.answer.accepted (call.answer.actions.map fun _ => .ok ())).map (.accepted c.id)
            ++ [.called c.id asdu call (call.answer.actions.map fun _ => .ok ())]) := by
  induction calls generalizing c with
  | nil =>
    rw [List.flatMap_nil, List.map_nil, List.append_nil]
    rfl
  | cons call later ih =>
    have := ih (c := { c with commands := c.commands ++ call.answer.actions.map commandOf }) ha hr
    simp only [performCalls, perform_of_active ha hr, this, List.flatMap_cons, List.map_append,
      List.append_assoc, List.singleton_append]

/-- What has come in when a task that waits lets its stream go: nothing, or a frame that is malformed or
refused. Nothing more is written. -/
inductive Ending (now : Millis) (id : Nat) (link : StationLink) : List StationEffect → Prop where
  | silent : Ending now id link []
  | malformed {octets rest : Octets} {fault : Fault}
      (hd : Apdu.decode link.inbound = .frame octets rest (.error fault)) :
      Ending now id link [.received id octets]
  | refused {octets rest : Octets} {frame : Apdu} {fault : Fault}
      (hd : Apdu.decode link.inbound = .frame octets rest (.ok frame))
      (hr : (link.session.receive frame now).result = .error fault) :
      Ending now id link [.received id octets]

theorem Ending.bare {now : Millis} {id : Nat} {link : StationLink} {effects : List StationEffect}
    (h : Ending now id link effects) : ∀ e ∈ effects, e.Bare id := by
  cases h with
  | silent => exact List.forall_mem_nil _
  | malformed | refused => exact List.forall_mem_singleton.2 rfl

/-- The connection `c` changes into another one at the beginning of a step. -/
inductive Begins (o : Outstation) (now : Millis) (c : StationConnection) :
    List StationEffect → StationConnection → Prop where
  | secured {deadline : Millis} (hc : c.phase = .securing deadline) :
      Begins o now c [.event c.id .opened] (c.withLink { session := .start o.config.parameters now })
  | abandoned {deadline : Millis} (hc : c.phase = .securing deadline) :
      Begins o now c [.hungUp c.id] { c with phase := .ended {}, commands := [] }
  | ended {link : StationLink} {effects : List StationEffect} (hc : c.phase = .serving link)
      (hp : link.point = .waiting) (he : Ending now c.id link effects) (s : Session) :
      Begins o now c (effects ++ [.event c.id .closed, .hungUp c.id]) (c.letGo s)
  /-- Octets arrive, or the stream breaks. -/
  | stream {link link' : StationLink} (hc : c.phase = .serving link)
      (hp : link'.point = link.point) (ho : link'.outbox = link.outbox)
      (hw : link'.session.window = link.session.window) : Begins o now c [] (c.withLink link')
  | frame {link : StationLink} {octets rest : Octets} {frame : Apdu} {inbound : Inbound}
      (hc : c.phase = .serving link) (hp : link.point = .waiting)
      (hd : Apdu.decode link.inbound = .frame octets rest (.ok frame))
      (hr : (link.session.receive frame now).result = .ok inbound) :
      Begins o now c (.received c.id octets :: sentFrames c.id (link.session.receive frame now))
        (c.withLink
          { link with
            session := (link.session.receive frame now).session
            inbound := rest
            point := .acting inbound })
  | response {link : StationLink} {asdu : Asdu} {later : List TaskCommand}
      (hc : c.phase = .serving link) (hp : link.point = .waiting)
      (hm : c.commands = .send asdu :: later) :
      Begins o now c []
        ({ c with commands := later }.withLink
          { link with outbox := link.outbox ++ [asdu], point := .due })
  | woken {link : StationLink} {later : List TaskCommand} (hc : c.phase = .serving link)
      (hp : link.point = .waiting) (hm : c.commands = .wake :: later) :
      Begins o now c [] ({ c with commands := later }.withLink { link with point := .due })
  | timers {link : StationLink} (hc : c.phase = .serving link) (hp : link.point = .waiting)
      (hr : (link.session.onTimer now).result = .ok ()) :
      Begins o now c (sentFrames c.id (link.session.onTimer now))
        (c.withLink { link with session := (link.session.onTimer now).session, point := .due })
  | handed (ha : c.active = true) (asdu : Asdu) :
      Begins o now c [.accepted c.id asdu] { c with commands := c.commands ++ [.send asdu] }
  /-- The task is asked to do something else than to send. -/
  | asked {command : TaskCommand} (hm : command = .wake ∨ command = .close) :
      Begins o now c [] (c.ask command)

/-- The task of the connection `c` goes on, and the queue may lose its oldest ASDU. -/
inductive Proceeds (o : Outstation) (now : Millis) (c : StationConnection) :
    List StationEffect → StationConnection → OutboundQueue → Prop where
  | ignored {link : StationLink} {inbound : Inbound} (hc : c.phase = .serving link)
      (hp : link.point = .acting inbound) (hs : inbound ≠ .control .startAct)
      (ht : inbound ≠ .control .stopAct) :
      Proceeds o now c [] (c.withLink { link with point := .due }) o.queue
  | dispatched {link : StationLink} {octets : Octets} {asdu : Asdu} (hc : c.phase = .serving link)
      (hp : link.point = .acting (.asdu octets)) (ha : c.active = true)
      (hd : Asdu.parse o.config.parameters octets = .ok asdu) :
      Proceeds o now c
        ((performCalls c asdu (o.handlers.dispatch asdu).calls).2
          ++ (o.handlers.dispatch asdu).reply.toList.map (.replied c.id))
        ((performCalls c asdu (o.handlers.dispatch asdu).calls).1.withLink
          { link with
            outbox := link.outbox ++ (o.handlers.dispatch asdu).reply.toList
            point := .due })
        o.queue
  | restarted {link : StationLink} (hc : c.phase = .serving link)
      (hp : link.point = .acting (.control .startAct)) (ha : c.active = true) :
      Proceeds o now c [] (c.withLink { link with point := .confirming .startCon }) o.queue
  | stopped {link : StationLink} (hc : c.phase = .serving link)
      (hp : link.point = .acting (.control .stopAct)) :
      Proceeds o now c (if c.active then [.event c.id .deactivated] else [])
        { c.withLink { link with point := .confirming .stopCon } with active := false } o.queue
  | confirmed {link : StationLink} {function : ControlFunction} (hc : c.phase = .serving link)
      (hp : link.point = .confirming function)
      (hr : (link.session.sendControl function now).result = .ok ()) :
      Proceeds o now c (sentFrames c.id (link.session.sendControl function now))
        (c.withLink
          { link with session := (link.session.sendControl function now).session, point := .due })
        o.queue
  | unconfirmed {link : StationLink} {function : ControlFunction} {fault : Fault}
      (hc : c.phase = .serving link) (hp : link.point = .confirming function)
      (hr : (link.session.sendControl function now).result = .error fault) (s : Session) :
      Proceeds o now c [.event c.id .closed, .hungUp c.id] (c.letGo s) o.queue
  | active {link : StationLink} (hc : c.phase = .serving link) (hp : link.point = .due)
      (ha : c.active = true) :
      Proceeds o now c [] (c.withLink { link with point := .sending }) o.queue
  | inactive {link : StationLink} (hc : c.phase = .serving link) (hp : link.point = .due)
      (ha : c.active = false) :
      Proceeds o now c [] (c.withLink { link with outbox := [], point := .waiting }) o.queue
  | rested {link : StationLink} (hc : c.phase = .serving link) (hp : link.point = .sending)
      (hn : link.session.window.canSend = true → link.outbox = [] ∧ o.queue.items = []) :
      Proceeds o now c [] (c.withLink { link with point := .waiting }) o.queue
  | sent {link link' : StationLink} {source : Source} {asdu : Asdu} {queue : OutboundQueue}
      (hc : c.phase = .serving link) (hp : link.point = .sending)
      (hs : link.session.window.canSend = true)
      (hn : nextAsdu? link o.queue = some (source, asdu, link', queue))
      (hr : (link'.session.sendInformation asdu.encode now).result = .ok ()) :
      Proceeds o now c
        (.taken c source asdu
          :: sentFrames c.id (link'.session.sendInformation asdu.encode now))
        (c.withLink
          { link' with session := (link'.session.sendInformation asdu.encode now).session })
        queue
  | unsent {link link' : StationLink} {source : Source} {asdu : Asdu} {queue : OutboundQueue}
      (hc : c.phase = .serving link) (hp : link.point = .sending)
      (hs : link.session.window.canSend = true)
      (hn : nextAsdu? link o.queue = some (source, asdu, link', queue)) (s : Session) :
      Proceeds o now c [.taken c source asdu, .event c.id .closed, .hungUp c.id] (c.letGo s) queue

section

variable {o : Outstation} {now : Millis} {c c' : StationConnection} {effects : List StationEffect}

theorem plain_sentFrames {α : Type} (id : Nat) (outcome : Session.Outcome α) :
    ∀ e ∈ sentFrames id outcome, e.Plain :=
  List.forall_mem_map.2 fun _ _ => trivial

theorem plain_letGo (id : Nat) :
    ∀ e ∈ [StationEffect.event id .closed, .hungUp id], e.Plain := by
  simp [StationEffect.Plain]

/-- A dispatch shows which handlers were called and what the connection took from them. -/
theorem mem_performCalls (ha : c.active = true) (hr : c.isRegistered = true) {asdu : Asdu}
    {calls : List HandlerCall} {e : StationEffect} (he : e ∈ (performCalls c asdu calls).2) :
    (∃ taken, e = .accepted c.id taken) ∨ ∃ call results, e = .called c.id asdu call results := by
  rw [performCalls_of_active ha hr] at he
  obtain ⟨call, -, he⟩ := List.mem_flatMap.1 he
  rcases List.mem_append.1 he with he | he
  · obtain ⟨taken, -, rfl⟩ := List.mem_map.1 he
    exact .inl ⟨taken, rfl⟩
  · exact .inr ⟨call, _, List.mem_singleton.1 he⟩

theorem plain_performCalls (ha : c.active = true) (hr : c.isRegistered = true) (asdu : Asdu)
    (calls : List HandlerCall) : ∀ e ∈ (performCalls c asdu calls).2, e.Plain := by
  intro e he
  obtain ⟨_, rfl⟩ | ⟨_, _, rfl⟩ := mem_performCalls ha hr he
  · trivial
  · trivial

theorem Begins.plain (h : c.Begins o now effects c') : ∀ e ∈ effects, e.Plain := by
  cases h with
  | ended hc hp he s =>
    exact List.forall_mem_append.2 ⟨fun e hm => (he.bare e hm).plain, plain_letGo _⟩
  | frame => exact List.forall_mem_cons.2 ⟨trivial, plain_sentFrames _ _⟩
  | timers => exact plain_sentFrames _ _
  | _ => simp [StationEffect.Plain]

/-- A task that takes an ASDU sends, its window has room, and it takes the next one. -/
theorem Proceeds.plain_or_takes {queue : OutboundQueue} (h : c.Proceeds o now effects c' queue) :
    ((∀ e ∈ effects, e.Plain) ∧ queue = o.queue) ∨
      ∃ link source asdu link' more, c.phase = .serving link ∧ link.point = .sending ∧
        link.session.window.canSend = true ∧
        nextAsdu? link o.queue = some (source, asdu, link', queue) ∧
        effects = .taken c source asdu :: more ∧ ∀ e ∈ more, e.Plain := by
  cases h with
  | dispatched hc hp ha =>
    refine Or.inl ⟨List.forall_mem_append.2 ⟨?_, List.forall_mem_map.2 fun _ _ => trivial⟩, rfl⟩
    exact plain_performCalls ha (isRegistered_of_link hc) _ _
  | stopped =>
    refine Or.inl ⟨?_, rfl⟩
    split <;> simp [StationEffect.Plain]
  | confirmed => exact Or.inl ⟨plain_sentFrames _ _, rfl⟩
  | unconfirmed => exact Or.inl ⟨plain_letGo _, rfl⟩
  | sent hc hp hs hn hr => exact Or.inr ⟨_, _, _, _, _, hc, hp, hs, hn, rfl, plain_sentFrames _ _⟩
  | unsent hc hp hs hn s =>
    exact Or.inr ⟨_, _, _, _, _, hc, hp, hs, hn, rfl, plain_letGo _⟩
  | _ => exact Or.inl ⟨List.forall_mem_nil _, rfl⟩

end

end StationConnection

namespace Outstation

/-- An outstation changes into another one; `pushed` are the ASDUs that its queue gets. -/
inductive Change (o : Outstation) (now : Millis) :
    (pushed : List Asdu) → List StationEffect → Outstation → Prop where
  | idle : Change o now [] [] o
  | refused : Change o now [] [.asked] o
  | admitted {asked : List StationEffect} (ha : asked = [] ∨ asked = [.asked])
      (hl : o.openConnections < o.config.maxOpenConnections) (peer : String) (deadline : Millis) :
      Change o now [] (asked ++ [.admitted o.nextId])
        { o with
          nextId := o.nextId + 1
          connections :=
            o.connections ++ [{ id := o.nextId, peer, phase := .securing deadline }] }
  | begins {id : Nat} {c c' : StationConnection} {effects : List StationEffect}
      (hc : o.connection? id = some c) (hb : c.Begins o now effects c') :
      Change o now [] effects (o.put c')
  | proceeds {id : Nat} {c c' : StationConnection} {effects : List StationEffect}
      {queue : OutboundQueue} (hc : o.connection? id = some c)
      (hp : c.Proceeds o now effects c' queue) : Change o now [] effects ({ o with queue }.put c')
  | activated {id : Nat} {c : StationConnection} {link : StationLink}
      (hc : o.connection? id = some c) (hl : c.phase = .serving link)
      (hp : link.point = .acting (.control .startAct)) (ha : c.active = false) :
      Change o now []
        ((o.put (c.withLink { link with point := .confirming .startCon })).activate c.id).2
        ((o.put (c.withLink { link with point := .confirming .startCon })).activate c.id).1
  | pushed (asdu : Asdu) : Change o now [asdu] (o.push asdu).2 (o.push asdu).1
  | lookedUp {waking : Nat} (hw : o.waking = waking + 1) :
      Change o now [] []
        { o with waking, woken := o.woken ++ (o.activeConnection.map (·.id)).toList }
  | woke {id : Nat} {c : StationConnection} (hi : id ∈ o.woken) (hc : o.connection? id = some c) :
      Change o now [] [] ({ o with woken := o.woken.erase id }.put (c.ask .wake))
  | wokeNone {id : Nat} (hi : id ∈ o.woken) (hc : o.connection? id = none) :
      Change o now [] [] { o with woken := o.woken.erase id }
  | handlers (handlers : Handlers) : Change o now [] [] { o with handlers }

/-- A step in which the connection `id` begins something, if anything happens. -/
inductive BeginsAt (o : Outstation) (now : Millis) (id : Nat) :
    List StationEffect → Outstation → Prop where
  | idle : BeginsAt o now id [] o
  | begins {c c' : StationConnection} {effects : List StationEffect}
      (hc : o.connection? id = some c) (hb : c.Begins o now effects c') :
      BeginsAt o now id effects (o.put c')

/-- A step in which the task of the connection `id` goes on, unless it waits. -/
inductive ProceedsAt (o : Outstation) (now : Millis) (id : Nat) :
    List StationEffect → Outstation → Prop where
  | waits (h : ∀ c link, o.connection? id = some c → c.phase = .serving link →
      link.point = .waiting) : ProceedsAt o now id [] o
  | proceeds {c c' : StationConnection} {effects : List StationEffect} {queue : OutboundQueue}
      (hc : o.connection? id = some c) (hp : c.Proceeds o now effects c' queue) :
      ProceedsAt o now id effects ({ o with queue }.put c')
  | activated {c : StationConnection} {link : StationLink} (hc : o.connection? id = some c)
      (hl : c.phase = .serving link) (hp : link.point = .acting (.control .startAct))
      (ha : c.active = false) :
      ProceedsAt o now id
        ((o.put (c.withLink { link with point := .confirming .startCon })).activate c.id).2
        ((o.put (c.withLink { link with point := .confirming .startCon })).activate c.id).1

variable {o : Outstation} {id : Nat} {now : Millis} {c : StationConnection} {link : StationLink}

theorem BeginsAt.change {effects : List StationEffect} {o' : Outstation}
    (h : BeginsAt o now id effects o') : Change o now [] effects o' := by
  cases h with
  | idle => exact .idle
  | begins hc hb => exact .begins hc hb

theorem BeginsAt.plain {effects : List StationEffect} {o' : Outstation}
    (h : BeginsAt o now id effects o') : ∀ e ∈ effects, e.Plain := by
  cases h with
  | idle => exact List.forall_mem_nil _
  | begins hc hb => exact hb.plain

theorem ProceedsAt.change {effects : List StationEffect} {o' : Outstation}
    (h : ProceedsAt o now id effects o') : Change o now [] effects o' := by
  cases h with
  | waits => exact .idle
  | proceeds hc hp => exact .proceeds hc hp
  | activated hc hl hp ha => exact .activated hc hl hp ha

/-- Of a dispatch only calls, and what the connection gets, are seen. -/
theorem filterMap_dispatched {α : Type} {f : StationEffect → Option α} (ha : c.active = true)
    (hr : c.isRegistered = true) {asdu : Asdu} {calls : List HandlerCall} {replies : List Asdu}
    (h₁ : ∀ asdu, f (.accepted c.id asdu) = none)
    (h₂ : ∀ call results, f (.called c.id asdu call results) = none)
    (h₃ : ∀ asdu, f (.replied c.id asdu) = none) :
    List.filterMap f ((performCalls c asdu calls).2 ++ replies.map (.replied c.id)) = [] := by
  refine List.filterMap_eq_nil_iff.2 fun e he => ?_
  rcases List.mem_append.1 he with he | he
  · obtain ⟨a, rfl⟩ | ⟨call, results, rfl⟩ := StationConnection.mem_performCalls ha hr he
    · exact h₁ a
    · exact h₂ call results
  · obtain ⟨a, -, rfl⟩ := List.mem_map.1 he
    exact h₃ a

/-! ## Finding the connection -/

theorem onLink_of (hc : o.connection? id = some c) (hl : c.phase = .serving link)
    (task : StationConnection → StationLink → Step) : o.onLink id task = task c link := by
  simp only [onLink, hc, hl]

theorem onSecuring_cases {P : Step → Prop} {task : StationConnection → Millis → Step}
    (h : P (o, []))
    (ht : ∀ c deadline, o.connection? id = some c → c.phase = .securing deadline →
      P (task c deadline)) : P (o.onSecuring id task) := by
  unfold onSecuring
  split
  · split
    · exact ht _ _ ‹_› ‹_›
    · exact h
  · exact h

theorem onLink_cases {P : Step → Prop} {task : StationConnection → StationLink → Step}
    (h : (∀ c link, o.connection? id = some c → c.phase ≠ .serving link) → P (o, []))
    (ht : ∀ c link, o.connection? id = some c → c.phase = .serving link → P (task c link)) :
    P (o.onLink id task) := by
  unfold onLink
  split
  · rename_i c hc
    split
    · exact ht _ _ hc ‹_›
    · rename_i hn
      refine h fun d link hd => ?_
      rw [hc, Option.some.injEq] at hd
      exact hd ▸ hn link
  · rename_i hn
    refine h fun c link hc => ?_
    rw [hn] at hc
    cases hc

theorem onWaiting_cases {P : Step → Prop} {task : StationConnection → StationLink → Step}
    (h : P (o, []))
    (ht : ∀ c link, o.connection? id = some c → c.phase = .serving link → link.point = .waiting →
      P (task c link)) : P (o.onWaiting id task) := by
  refine onLink_cases (fun _ => h) fun c link hc hl => ?_
  split
  · exact ht c link hc hl ‹_›
  · exact h

theorem bare_sentFrames {α : Type} {outcome : Session.Outcome α} (h : outcome.Bare) (id : Nat) :
    ∀ e ∈ sentFrames id outcome, e.Bare id := by
  intro e he
  obtain ⟨f, hf, rfl⟩ := List.mem_map.1 he
  exact ⟨rfl, h f hf⟩

/-- An operation that fails is not seen on the stream. -/
theorem sentFrames_of_error {α : Type} {s : Session} {outcome : Session.Outcome α} {fault : Fault}
    (h : outcome.Withdraws s) (hr : outcome.result = .error fault) : sentFrames id outcome = [] := by
  rw [sentFrames, (h fault hr).1]
  rfl

/-! ## At the beginning of a step -/

theorem change_accept (o : Outstation) (peer : String) (answer : Option Bool) (now : Millis) :
    Change o now [] (o.accept peer answer now).1.2 (o.accept peer answer now).1.1 := by
  have ha : (if answer.isSome then [.asked] else [] : List StationEffect) = [] ∨
      (if answer.isSome then [.asked] else [] : List StationEffect) = [.asked] := by
    cases answer <;> simp
  simp only [accept]
  split
  · rcases ha with ha | ha <;> rw [ha]
    · exact .idle
    · exact .refused
  · rename_i h
    obtain ⟨-, hl⟩ := not_or.1 h
    exact .admitted ha (Nat.lt_of_not_le hl) peer _

theorem beginsAt_onSecuring {task : StationConnection → Millis → Step}
    (ht : ∀ c deadline, o.connection? id = some c → c.phase = .securing deadline →
      BeginsAt o now id (task c deadline).2 (task c deadline).1) :
    BeginsAt o now id (o.onSecuring id task).2 (o.onSecuring id task).1 :=
  onSecuring_cases (P := fun step => BeginsAt o now id step.2 step.1) .idle ht

theorem beginsAt_onWaiting {task : StationConnection → StationLink → Step}
    (ht : ∀ c link, o.connection? id = some c → c.phase = .serving link → link.point = .waiting →
      BeginsAt o now id (task c link).2 (task c link).1) :
    BeginsAt o now id (o.onWaiting id task).2 (o.onWaiting id task).1 :=
  onWaiting_cases (P := fun step => BeginsAt o now id step.2 step.1) .idle ht

theorem beginsAt_secure (o : Outstation) (id : Nat) (secured : Bool) (now : Millis) :
    BeginsAt o now id (o.secure id secured now).2 (o.secure id secured now).1 := by
  refine beginsAt_onSecuring fun c deadline hc hp => ?_
  cases secured with
  | true =>
    obtain rfl := id_of_connection? hc
    exact .begins hc (.secured hp)
  | false => exact .begins hc (.abandoned hp)

theorem beginsAt_expire (o : Outstation) (id : Nat) (now : Millis) :
    BeginsAt o now id (o.expire id now).2 (o.expire id now).1 := by
  refine beginsAt_onSecuring fun c deadline hc hp => ?_
  split
  · exact .begins hc (.abandoned hp)
  · exact .idle

theorem beginsAt_updateLink (o : Outstation) (id : Nat) (now : Millis)
    {f : StationLink → StationLink}
    (hf : ∀ link, (f link).point = link.point ∧ (f link).outbox = link.outbox ∧
      (f link).session.window = link.session.window) : BeginsAt o now id [] (o.updateLink id f) := by
  refine onLink_cases (P := fun step => BeginsAt o now id [] step.1) (fun _ => .idle)
    fun c link hc hl => ?_
  obtain ⟨hp, ho, hw⟩ := hf link
  exact .begins hc (.stream hl hp ho hw)

theorem beginsAt_arrive (o : Outstation) (id : Nat) (octets : Octets) (now : Millis) :
    BeginsAt o now id [] (o.arrive id octets) :=
  beginsAt_updateLink o id now fun _ => ⟨rfl, rfl, rfl⟩

theorem beginsAt_breakStream (o : Outstation) (id : Nat) (now : Millis) :
    BeginsAt o now id [] (o.breakStream id) :=
  beginsAt_updateLink o id now fun _ => ⟨rfl, rfl, rfl⟩

/-- A task that waits ends its connection. -/
theorem beginsAt_finish (hc : o.connection? id = some c) (hl : c.phase = .serving link)
    (hp : link.point = .waiting) {effects : List StationEffect}
    (he : StationConnection.Ending now c.id link effects) (s : Session) :
    BeginsAt o now id (effects ++ (o.finish c s).2) (o.finish c s).1 :=
  .begins hc (.ended hl hp he s)

theorem beginsAt_finish_silently (hc : o.connection? id = some c) (hl : c.phase = .serving link)
    (hp : link.point = .waiting) (s : Session) : BeginsAt o now id (o.finish c s).2 (o.finish c s).1 :=
  beginsAt_finish hc hl hp .silent s

theorem beginsAt_receiveFrame (hc : o.connection? id = some c) (hl : c.phase = .serving link)
    (hp : link.point = .waiting) {octets rest : Octets} {frame : Apdu}
    (hd : Apdu.decode link.inbound = .frame octets rest (.ok frame)) :
    BeginsAt o now id
      (.received c.id octets :: (o.receiveFrame c { link with inbound := rest } frame now).2)
      (o.receiveFrame c { link with inbound := rest } frame now).1 := by
  simp only [receiveFrame]
  cases hr : (link.session.receive frame now).result with
  | ok inbound =>
    simp only [after, List.append_nil]
    exact .begins hc (.frame hl hp hd hr)
  | error fault =>
    rw [sentFrames_of_error (link.session.withdraws_receive frame now) hr]
    exact beginsAt_finish hc hl hp (.refused hd hr) _

theorem beginsAt_takeFrame (o : Outstation) (id : Nat) (now : Millis) :
    BeginsAt o now id (o.takeFrame id now).2 (o.takeFrame id now).1 := by
  refine beginsAt_onWaiting fun c link hc hl hp => ?_
  obtain rfl := id_of_connection? hc
  cases hd : Apdu.decode link.inbound with
  | incomplete => exact .idle
  | refused fault => exact beginsAt_finish_silently hc hl hp _
  | frame octets rest content =>
    cases content with
    | error fault => exact beginsAt_finish hc hl hp (.malformed hd) _
    | ok frame => exact beginsAt_receiveFrame hc hl hp hd

theorem beginsAt_takeCommand (o : Outstation) (id : Nat) (now : Millis) :
    BeginsAt o now id (o.takeCommand id).2 (o.takeCommand id).1 := by
  refine beginsAt_onWaiting fun c link hc hl hp => ?_
  cases hm : c.commands with
  | nil => exact .idle
  | cons command later =>
    cases command with
    | send asdu => exact .begins hc (.response hl hp hm)
    | wake => exact .begins hc (.woken hl hp hm)
    | close => exact beginsAt_finish_silently hc hl hp _

theorem beginsAt_handleTimers (o : Outstation) (id : Nat) (now : Millis) :
    BeginsAt o now id (o.handleTimers id now).2 (o.handleTimers id now).1 := by
  refine beginsAt_onWaiting fun c link hc hl hp => ?_
  split
  · simp only [conclude]
    cases hr : (link.session.onTimer now).result with
    | ok _ =>
      simp only [after, List.append_nil]
      exact .begins hc (.timers hl hp hr)
    | error fault =>
      rw [sentFrames_of_error (link.session.withdraws_onTimer now) hr]
      exact beginsAt_finish_silently hc hl hp _
  · exact .idle

theorem beginsAt_endOfStream (o : Outstation) (id : Nat) (now : Millis) :
    BeginsAt o now id (o.endOfStream id).2 (o.endOfStream id).1 :=
  beginsAt_onWaiting fun _ _ hc hl hp =>
    beginsAt_finish_silently hc hl hp _

theorem beginsAt_send (o : Outstation) (id : Nat) (asdu : Asdu) (now : Millis) :
    BeginsAt o now id (o.begin now (.send id asdu)).2 (o.begin now (.send id asdu)).1 := by
  simp only [begin, send]
  cases hc : o.connection? id with
  | none => exact .idle
  | some c =>
    obtain rfl := id_of_connection? hc
    by_cases ha : c.active = true
    · simp only [StationConnection.send, if_pos ha, Except.map]
      exact .begins hc (.handed ha asdu)
    · simp only [StationConnection.send, if_neg ha, Except.map]
      exact .idle

theorem beginsAt_closeConnection (o : Outstation) (id : Nat) (now : Millis) :
    BeginsAt o now id [] (o.closeConnection id) := by
  unfold closeConnection
  split
  · exact .begins ‹_› (.asked (.inr rfl))
  · exact .idle

theorem change_begin (o : Outstation) (now : Millis) (input : Input) :
    Change o now input.enqueued (o.begin now input).2 (o.begin now input).1 := by
  cases input with
  | accept peer answer => exact change_accept o peer answer now
  | handshake id secured => exact (beginsAt_secure o id secured now).change
  | expire id => exact (beginsAt_expire o id now).change
  | arrive id octets => exact (beginsAt_arrive o id octets now).change
  | readable id => exact (beginsAt_takeFrame o id now).change
  | command id => exact (beginsAt_takeCommand o id now).change
  | timer id => exact (beginsAt_handleTimers o id now).change
  | endOfStream id => exact (beginsAt_endOfStream o id now).change
  | breakStream id => exact (beginsAt_breakStream o id now).change
  | enqueue asdu => exact .pushed asdu
  | send id asdu => exact (beginsAt_send o id asdu now).change
  | close id => exact (beginsAt_closeConnection o id now).change
  | handlers handlers => exact .handlers handlers

/-! ## While a task goes on -/

theorem nextAsdu?_eq_none {queue : OutboundQueue} (h : nextAsdu? link queue = none) :
    link.outbox = [] ∧ queue.items = [] := by
  unfold nextAsdu? at h
  split at h
  · cases h
  · rename_i ho
    refine ⟨ho, ?_⟩
    rw [OutboundQueue.pop?, Option.map_eq_none_iff] at h
    split at h
    · assumption
    · cases h

/-- The next ASDU is the first response or, if there is none, the first of the queue. -/
theorem nextAsdu?_eq_some {link' : StationLink} {queue queue' : OutboundQueue} {source : Source}
    {asdu : Asdu} (h : nextAsdu? link queue = some (source, asdu, link', queue')) :
    (∃ later, link.outbox = asdu :: later ∧ source = .outbox ∧ link' = { link with outbox := later } ∧
      queue' = queue) ∨
    (∃ later, link.outbox = [] ∧ queue.items = asdu :: later ∧ source = .queue ∧ link' = link ∧
      queue' = { queue with items := later }) := by
  unfold nextAsdu? at h
  split at h
  · rename_i later ho
    cases h
    exact Or.inl ⟨later, ho, rfl, rfl, rfl⟩
  · rename_i ho
    unfold OutboundQueue.pop? at h
    split at h
    · cases h
    · rename_i later hq
      cases h
      exact Or.inr ⟨later, ho, hq, rfl, rfl, rfl⟩

theorem proceeds_sendNext (o : Outstation) (now : Millis) (hl : c.phase = .serving link)
    (hp : link.point = .sending) :
    ∃ c' queue, c.Proceeds o now (o.sendNext c link now).2 c' queue ∧
      (o.sendNext c link now).1 = { o with queue }.put c' := by
  unfold sendNext
  split
  · rename_i hn
    refine ⟨_, _, .rested hl hp fun hs => ?_, rfl⟩
    rw [if_pos hs] at hn
    exact nextAsdu?_eq_none hn
  · rename_i source asdu link' queue hn
    cases hs : link.session.window.canSend with
    | false => simp [hs] at hn
    | true =>
      rw [hs, if_pos rfl] at hn
      unfold conclude
      cases hr : (link'.session.sendInformation asdu.encode now).result with
      | ok _ =>
        simp only [after, List.append_nil, List.singleton_append]
        exact ⟨_, _, .sent hl hp hs hn hr, rfl⟩
      | error fault =>
        rw [sentFrames_of_error (Session.withdraws_sendInformation _ _ now) hr]
        exact ⟨_, _, .unsent hl hp hs hn _, rfl⟩

theorem proceedsAt_act (hc : o.connection? id = some c) (hl : c.phase = .serving link)
    {inbound : Inbound} (hp : link.point = .acting inbound) :
    ProceedsAt o now id (o.act c link inbound).2 (o.act c link inbound).1 := by
  unfold act
  split
  · split
    · rename_i octets ha
      unfold onAsdu
      split
      · exact .proceeds hc (.ignored hl hp nofun nofun)
      · have h : c.Proceeds o now _ _ o.queue := .dispatched hl hp ha ‹_›
        exact .proceeds hc h
    · exact .proceeds hc (.ignored hl hp nofun nofun)
  · split
    · exact .proceeds hc (.restarted hl hp ‹_›)
    · exact .activated hc hl hp (Bool.eq_false_iff.2 ‹_›)
  · exact .proceeds hc (.stopped hl hp)
  · rename_i function hs ht
    refine .proceeds hc (.ignored hl hp (fun he => hs ?_) fun he => ht ?_)
    · cases he
      rfl
    · cases he
      rfl
  · exact .proceeds hc (.ignored hl hp nofun nofun)

theorem proceedsAt_proceed (o : Outstation) (id : Nat) (now : Millis) :
    ProceedsAt o now id (o.proceed id now).2 (o.proceed id now).1 := by
  refine onLink_cases (P := fun step => ProceedsAt o now id step.2 step.1) (fun hn => ?_)
    fun c link hc hl => ?_
  · exact .waits fun c link hc hl => absurd hl (hn c link hc)
  · cases hp : link.point with
    | waiting =>
      refine .waits fun d link' hd hl' => ?_
      obtain rfl : c = d := Option.some.inj (hc.symm.trans hd)
      obtain rfl : link = link' := ConnectionPhase.serving.inj (hl.symm.trans hl')
      exact hp
    | acting inbound => exact proceedsAt_act hc hl hp
    | confirming function =>
      simp only [conclude]
      cases hr : (link.session.sendControl function now).result with
      | ok _ =>
        simp only [after, List.append_nil]
        exact .proceeds hc (.confirmed hl hp hr)
      | error fault =>
        rw [sentFrames_of_error (Session.withdraws_sendControl rfl) hr]
        exact .proceeds hc (.unconfirmed hl hp hr _)
    | due =>
      simp only [beginSending]
      split
      · exact .proceeds hc (.active hl hp ‹_›)
      · exact .proceeds hc (.inactive hl hp (Bool.eq_false_iff.2 ‹_›))
    | sending =>
      obtain ⟨c', queue, h, hq⟩ := proceeds_sendNext o now hl hp
      rw [hq]
      exact .proceeds hc h

theorem change_lookUp (o : Outstation) (now : Millis) : Change o now [] [] o.lookUp := by
  unfold lookUp
  split
  · exact .idle
  · exact .lookedUp ‹_›

theorem change_wake (o : Outstation) (id : Nat) (now : Millis) : Change o now [] [] (o.wake id) := by
  unfold wake
  split
  · rename_i hi
    dsimp only
    split
    · exact .woke hi ‹_›
    · exact .wokeNone hi ‹_›
  · exact .idle

/-- Nothing else happens to an outstation. -/
theorem change_move (o : Outstation) (now : Millis) (m : Move) :
    Change o now m.enqueued (o.move now m).2 (o.move now m).1 := by
  cases m with
  | begin input => exact change_begin o now input
  | proceed id => exact (proceedsAt_proceed o id now).change
  | lookUp => exact change_lookUp o now
  | wake id => exact change_wake o id now

end Outstation

end Telecontrol
