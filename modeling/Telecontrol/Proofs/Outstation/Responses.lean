import Mathlib.Data.List.Perm.Subperm
import Telecontrol.Proofs.Outstation.Active

/-!
# Responses of an earlier data transfer

What a connection may still send of the responses that it got. A task discards them when it finds its
connection inactive. So they are gone once it has found that, or is to find out next; but a task that
waits when another connection becomes active keeps them, and may be active again before it looks.

* `TaskPoint.looks`: whether a task is to find out whether its connection is active.
* `StationConnection.kept`, `StationConnection.toSend`: the responses that may still be sent.
* `Outstation.obtained`, `Outstation.taken`, `Outstation.carried`: the ASDUs that a connection got, that
  its task took, and that went to its master.
* `Outstation.Accounts`: what a task takes, and its connection may still send, was there or came in.
  `Outstation.Covered`: what goes to a master was taken.
* `Outstation.interleave_no_stale_responses`: the main statement.
* `Outstation.run_stale_response`: a response that outlives its data transfer.
-/

namespace Telecontrol

/-- The ASDUs that a handler sends, in order. -/
def Answer.sends (answer : Answer) : List Asdu :=
  answer.actions.filterMap fun
    | .send asdu => some asdu
    | .close => none

/-- Whether a task finds out if its connection is active before it does anything else. -/
def TaskPoint.looks : TaskPoint → Bool
  | .acting (.control .startAct) => false
  | .acting _ | .confirming _ | .due => true
  | .waiting | .sending => false

namespace StationConnection

/-- The responses that a task may still send, unless others come between. -/
def kept (c : StationConnection) : List Asdu :=
  match c.phase with
  | .serving link => if c.active = false ∧ link.point.looks = true then [] else link.outbox
  | _ => []

/-- The ASDUs that a task is asked to send. -/
def toSend (c : StationConnection) : List Asdu :=
  c.commands.filterMap fun
    | .send asdu => some asdu
    | _ => none

/-- All that a connection may still send of what it got. -/
def pending (c : StationConnection) : List Asdu := c.kept ++ c.toSend

end StationConnection

namespace Outstation

/-- The ASDUs that a connection got from the application, from handlers or from the outstation. -/
def obtained (id : Nat) (effects : List StationEffect) : List Asdu :=
  effects.filterMap fun
    | .accepted i asdu | .replied i asdu => if i = id then some asdu else none
    | _ => none

/-- The ASDUs that the task of a connection took from where they waited. -/
def taken (id : Nat) (source : Source) (effects : List StationEffect) : List Asdu :=
  effects.filterMap fun
    | .taken c s asdu => if c.id = id ∧ s = source then some asdu else none
    | _ => none

/-- The ASDUs that went to the master of a connection, encoded. -/
def carried (id : Nat) (effects : List StationEffect) : List Octets :=
  effects.filterMap fun
    | .sent i frame => if i = id then frame.asdu else none
    | _ => none

/-- The responses that the connection `id` takes, and those that it may still send then (`after`), it had
before or gets meanwhile. -/
def Accounts (id : Nat) (effects : List StationEffect) (before after : List Asdu) : Prop :=
  (taken id .outbox effects ++ after).Subperm (before ++ obtained id effects)

/-- What goes to the master of the connection `id` was taken by its task. -/
def Covered (id : Nat) (effects : List StationEffect) : Prop :=
  (carried id effects).Subperm ((taken id .queue effects ++ taken id .outbox effects).map Asdu.encode)

variable {id : Nat} {source : Source} {effects more : List StationEffect}
  {before between after : List Asdu}

theorem taken_append (effects more : List StationEffect) :
    taken id source (effects ++ more) = taken id source effects ++ taken id source more :=
  List.filterMap_append

theorem obtained_append (effects more : List StationEffect) :
    obtained id (effects ++ more) = obtained id effects ++ obtained id more :=
  List.filterMap_append

theorem obtained_accepted (id : Nat) (asdus : List Asdu) :
    obtained id (asdus.map (.accepted id)) = asdus := by
  simp [obtained, List.filterMap_map]

theorem obtained_replied (id : Nat) (asdus : List Asdu) :
    obtained id (asdus.map (.replied id)) = asdus := by
  simp [obtained, List.filterMap_map]

theorem carried_append (effects more : List StationEffect) :
    carried id (effects ++ more) = carried id effects ++ carried id more :=
  List.filterMap_append

theorem taken_of_plain (h : ∀ e ∈ effects, e.Plain) : taken id source effects = [] := by
  refine List.filterMap_eq_nil_iff.2 fun e he => ?_
  cases e with
  | taken => cases h _ he
  | _ => rfl

theorem taken_cons {c : StationConnection} {s : Source} {asdu : Asdu}
    (h : ∀ e ∈ effects, e.Plain) :
    taken id source (.taken c s asdu :: effects) =
      if c.id = id ∧ s = source then [asdu] else [] := by
  have ht : taken id source (.taken c s asdu :: effects) = taken id source [.taken c s asdu] := by
    rw [← List.singleton_append, taken_append, taken_of_plain h, List.append_nil]
  rw [ht, taken]
  split <;> simp [*]

theorem accounts_of_sublist (ht : taken id .outbox effects = []) (h : List.Sublist after before) :
    Accounts id effects before after := by
  rw [Accounts, ht, List.nil_append]
  exact (h.trans (List.sublist_append_left _ _)).subperm

theorem Accounts.sublist (h : Accounts id effects before between)
    (hs : List.Sublist after between) : Accounts id effects before after :=
  (hs.append_left _).subperm.trans h

theorem Accounts.append (h : Accounts id effects before between)
    (hm : Accounts id more between after) : Accounts id (effects ++ more) before after := by
  rw [Accounts, taken_append, obtained_append, List.append_assoc, ← List.append_assoc before]
  have hm' := (List.subperm_append_left (taken id .outbox effects)).2 hm
  have h' := (List.subperm_append_right (obtained id more)).2 h
  rw [List.append_assoc] at h'
  exact hm'.trans h'

theorem covered_of_nil (h : carried id effects = []) : Covered id effects := by
  rw [Covered, h]
  exact List.nil_subperm

theorem Covered.append (h : Covered id effects) (hm : Covered id more) :
    Covered id (effects ++ more) := by
  rw [Covered, carried_append, taken_append, taken_append]
  refine (List.Subperm.append h hm).trans (List.Perm.subperm ?_)
  rw [← List.map_append, List.append_assoc, List.append_assoc]
  exact ((List.perm_append_comm_assoc _ _ _).append_left _).map _

end Outstation

namespace StationConnection

open Outstation

variable {o : Outstation} {now : Millis} {c c' : StationConnection} {link link' : StationLink}
  {effects : List StationEffect}

/-! ## What a connection may still send -/

theorem pending_eq (hc : c.phase = .serving link) (h : c.active = true ∨ link.point.looks = false) :
    c.pending = link.outbox ++ c.toSend := by
  have hn : ¬ (c.active = false ∧ link.point.looks = true) := by
    rintro ⟨ha, hl⟩
    rcases h with h | h
    · cases ha.symm.trans h
    · cases hl.symm.trans h
  simp only [pending, kept, hc, if_neg hn]

theorem toSend_sublist (c : StationConnection) : List.Sublist c.toSend c.pending :=
  List.sublist_append_right _ _

theorem kept_sublist (hc : c.phase = .serving link) : List.Sublist c.kept link.outbox := by
  simp only [kept, hc]
  split
  · exact List.nil_sublist _
  · exact List.Sublist.refl _

theorem pending_withLink_sublist (c : StationConnection) (link : StationLink) :
    List.Sublist (c.withLink link).pending (link.outbox ++ c.toSend) :=
  (kept_sublist rfl).append_right _

theorem pending_of_inactive (c : StationConnection) (ha : c.active = false)
    (hl : ∀ link, c.phase = .serving link → link.outbox = [] ∨ link.point.looks = true) :
    c.pending = c.toSend := by
  have hk : c.kept = [] := by
    cases hc : c.phase with
    | serving link =>
      rcases hl link hc with ho | hl
      · exact List.sublist_nil.1 (ho ▸ kept_sublist hc)
      · simp only [kept, hc, ha, hl, and_self, if_true]
    | _ => simp only [kept, hc]
  rw [pending, hk, List.nil_append]

theorem pending_deactivate_sublist (c : StationConnection) :
    List.Sublist { c with active := false }.pending c.pending := by
  refine List.Sublist.append_right ?_ _
  obtain ⟨id, peer, active, phase, commands⟩ := c
  cases phase with
  | serving link =>
    cases active with
    | true => exact kept_sublist rfl
    | false => exact List.Sublist.refl _
  | _ => exact List.nil_sublist _

/-- A task that is to look keeps no more than it did before. -/
theorem pending_looks_sublist (hc : c.phase = .serving link) (ho : link'.outbox = link.outbox)
    (hl : link'.point.looks = true) : List.Sublist (c.withLink link').pending c.pending := by
  cases ha : c.active with
  | true =>
    rw [pending_eq hc (.inl ha), ← ho]
    exact c.pending_withLink_sublist link'
  | false =>
    have h : (c.withLink link').pending = c.toSend :=
      pending_of_inactive (c.withLink link') ha fun link h => by cases h; exact .inr hl
    rw [h]
    exact c.toSend_sublist

/-- A task that waits or sends leaves its responses where they are. -/
theorem pending_same_sublist (hc : c.phase = .serving link) (hp : link.point.looks = false)
    (ho : link'.outbox = link.outbox) : List.Sublist (c.withLink link').pending c.pending := by
  rw [pending_eq hc (.inr hp), ← ho]
  exact c.pending_withLink_sublist link'

theorem toSend_append (c : StationConnection) (commands : List TaskCommand) :
    toSend { c with commands := c.commands ++ commands } =
      c.toSend ++ toSend { c with commands } :=
  List.filterMap_append

theorem toSend_ask (c : StationConnection) {command : TaskCommand}
    (hm : command = .wake ∨ command = .close) : (c.ask command).toSend = c.toSend := by
  unfold ask
  split
  · have ha : toSend { c with commands := [command] } = [] := by rcases hm with rfl | rfl <;> rfl
    rw [toSend_append, ha, List.append_nil]
  · rfl

theorem kept_ask (c : StationConnection) (command : TaskCommand) : (c.ask command).kept = c.kept := by
  unfold ask
  split <;> rfl

theorem pending_ask (c : StationConnection) {command : TaskCommand}
    (hm : command = .wake ∨ command = .close) : (c.ask command).pending = c.pending := by
  rw [pending, pending, c.kept_ask, c.toSend_ask hm]

/-- While a task begins something, its connection gets no more to send than what it is given. -/
theorem Begins.accounts (h : c.Begins o now effects c') :
    Accounts c.id effects c.pending c'.pending := by
  have hplain (h' : List.Sublist c'.pending c.pending) :
      Accounts c.id effects c.pending c'.pending :=
    accounts_of_sublist (taken_of_plain h.plain) h'
  cases h with
  | abandoned | ended => exact hplain (List.nil_sublist _)
  | asked hm => exact hplain (pending_ask c hm ▸ List.Sublist.refl _)
  | secured hc => exact hplain ((c.pending_withLink_sublist _).trans c.toSend_sublist)
  | @stream link link' hc hp ho =>
    have hk : (c.withLink link').pending = c.pending := by
      simp only [pending, kept, withLink, hc, hp, ho]
      rfl
    exact hplain (hk ▸ List.Sublist.refl _)
  | frame hc hp | timers hc hp => exact hplain (pending_same_sublist hc (hp ▸ rfl) rfl)
  | @woken link later hc hp hm =>
    refine hplain ((pending_withLink_sublist { c with commands := later } _).trans ?_)
    rw [pending_eq hc (.inr (hp ▸ rfl)), toSend, toSend, hm]
    exact List.Sublist.refl _
  | @response link asdu later hc hp hm =>
    refine hplain ((pending_withLink_sublist { c with commands := later } _).trans ?_)
    rw [pending_eq hc (.inr (hp ▸ rfl)), toSend, toSend, hm, List.append_assoc]
    exact List.Sublist.refl _
  | handed ha asdu =>
    have hp : { c with commands := c.commands ++ [TaskCommand.send asdu] }.pending =
        c.pending ++ [asdu] := by
      rw [pending, toSend_append, ← List.append_assoc]
      rfl
    have ho : obtained c.id [.accepted c.id asdu] = [asdu] := by simp [obtained]
    rw [Accounts, hp, ho]
    exact List.Subperm.refl _

/-- On the active connection nothing of it is refused. -/
theorem accepted_eq_sends (answer : Answer) :
    answer.accepted (answer.actions.map fun _ => .ok ()) = answer.sends := by
  obtain ⟨actions, handled⟩ := answer
  induction actions with
  | nil => rfl
  | cons action later ih =>
    cases action with
    | send asdu => exact congrArg (asdu :: ·) ih
    | close => exact ih

theorem obtained_performCalls (ha : c.active = true) (hr : c.isRegistered = true) (asdu : Asdu)
    (calls : List HandlerCall) :
    obtained c.id (performCalls c asdu calls).2 = calls.flatMap (·.answer.sends) := by
  rw [performCalls_of_active ha hr]
  induction calls with
  | nil => rfl
  | cons call later ih =>
    have hcall : ∀ results, obtained c.id [.called c.id asdu call results] = [] := fun _ => rfl
    rw [List.flatMap_cons, List.flatMap_cons, List.flatMap_cons, obtained_append, obtained_append,
      obtained_accepted, hcall, List.append_nil, ih, accepted_eq_sends]

/-- What the handlers send, the task is asked to send. -/
theorem toSend_performCalls (ha : c.active = true) (hr : c.isRegistered = true) (asdu : Asdu)
    (calls : List HandlerCall) :
    (performCalls c asdu calls).1.toSend = c.toSend ++ calls.flatMap (·.answer.sends) := by
  rw [performCalls_of_active ha hr, toSend_append]
  refine congrArg (c.toSend ++ ·) ?_
  rw [toSend, List.filterMap_map, List.filterMap_flatMap]
  refine congrArg (calls.flatMap ·) (funext fun call => ?_)
  refine congrArg (List.filterMap · call.answer.actions) (funext fun action => ?_)
  cases action <;> rfl

/-- What a task takes to send, and what its connection may still send then, it had before. -/
theorem accounts_takes (s : Session) {source : Source} {asdu : Asdu} {queue : OutboundQueue}
    (hc : c.phase = .serving link) (hp : link.point = .sending)
    (hn : nextAsdu? link o.queue = some (source, asdu, link', queue))
    (he : ∀ e ∈ effects, e.Plain) :
    Accounts c.id (.taken c source asdu :: effects) c.pending
      (c.withLink { link' with session := s }).pending := by
  refine Accounts.sublist ?_ (c.pending_withLink_sublist _)
  rw [Accounts, taken_cons he, pending_eq hc (.inr (hp ▸ rfl))]
  refine List.Sublist.subperm (List.Sublist.trans ?_ (List.sublist_append_left _ _))
  obtain ⟨later, ho, rfl, rfl, -⟩ | ⟨later, ho, -, rfl, rfl, -⟩ := nextAsdu?_eq_some hn
  · rw [if_pos ⟨rfl, rfl⟩, ho]
    exact List.Sublist.refl _
  · rw [if_neg (by simp), List.nil_append]

/-- While a task goes on, what it takes and what its connection may still send then was there before or
comes in. -/
theorem Proceeds.accounts {queue : OutboundQueue} (h : c.Proceeds o now effects c' queue) :
    Accounts c.id effects c.pending c'.pending := by
  cases h with
  | ignored hc | restarted hc => exact accounts_of_sublist rfl (pending_looks_sublist hc rfl rfl)
  | confirmed hc =>
    exact accounts_of_sublist (taken_of_plain (plain_sentFrames _ _))
      (pending_looks_sublist hc rfl rfl)
  | unconfirmed =>
    exact accounts_of_sublist (taken_of_plain (plain_letGo _)) (List.nil_sublist _)
  | stopped hc hp =>
    refine accounts_of_sublist ?_ ?_
    · split <;> rfl
    · rw [pending_of_inactive _ rfl fun link h => by cases h; exact .inr rfl]
      exact c.toSend_sublist
  | active hc hp ha =>
    refine accounts_of_sublist rfl ?_
    rw [pending_eq hc (.inl ha)]
    exact c.pending_withLink_sublist _
  | inactive hc hp ha =>
    exact accounts_of_sublist rfl ((c.pending_withLink_sublist _).trans c.toSend_sublist)
  | rested hc hp hn => exact accounts_of_sublist rfl (pending_same_sublist hc (hp ▸ rfl) rfl)
  | sent hc hp hs hn hr => exact accounts_takes _ hc hp hn (plain_sentFrames _ _)
  | unsent hc hp hs hn s =>
    exact (accounts_takes s hc hp hn (plain_letGo _)).sublist (List.nil_sublist _)
  | @dispatched link octets asdu hc hp ha hd =>
    have hr := isRegistered_of_link hc
    have he : ∀ e ∈ (performCalls c asdu (o.handlers.dispatch asdu).calls).2 ++
        (o.handlers.dispatch asdu).reply.toList.map (.replied c.id), e.Plain :=
      List.forall_mem_append.2
        ⟨plain_performCalls ha hr _ _, List.forall_mem_map.2 fun _ _ => trivial⟩
    rw [Accounts, taken_of_plain he, obtained_append, obtained_performCalls ha hr, obtained_replied,
      pending_eq hc (.inl ha), List.nil_append]
    refine (pending_withLink_sublist _ _).subperm.trans (List.Perm.subperm ?_)
    -- the reply overtakes the commands that wait
    rw [toSend_performCalls ha hr, List.append_assoc, List.append_assoc]
    refine List.Perm.append_left _ (List.perm_append_comm.trans ?_)
    rw [List.append_assoc]

end StationConnection

namespace Outstation

variable {o o' : Outstation} {now : Millis} {id : Nat} {c c' : StationConnection}
  {effects : List StationEffect} {pushed : List Asdu}

/-- All that the connection `id` may still send of what it got. -/
def pending (o : Outstation) (id : Nat) : List Asdu := (o.connection? id).elim [] (·.pending)

theorem pending_of_connection? (hc : o.connection? id = some c) : o.pending id = c.pending := by
  rw [pending, hc, Option.elim_some]

/-- What accounts for a change of one connection accounts for it in the outstation. -/
theorem accounts_put {queue : OutboundQueue} {woken : List Nat} {j : Nat}
    (hc : o.connection? j = some c) (hi : c'.id = c.id)
    (h : Accounts c.id effects c.pending c'.pending)
    (hother : c.id ≠ id → taken id .outbox effects = []) :
    Accounts id effects (o.pending id) (({ o with queue, woken }.put c').pending id) := by
  obtain rfl := id_of_connection? hc
  by_cases hid : c.id = id
  · subst hid
    have hput : ({ o with queue, woken }.put c').connection? c.id = some c' := connection?_put hc hi
    rw [pending_of_connection? hc, pending_of_connection? hput]
    exact h
  · have hput : ({ o with queue, woken }.put c').connection? id = o.connection? id :=
      connection?_put_of_ne (hi ▸ hid)
    refine accounts_of_sublist (hother hid) ?_
    rw [pending, hput]
    exact List.Sublist.refl _

theorem taken_of_ne {queue : OutboundQueue} {source : Source}
    (h : c.Proceeds o now effects c' queue) (hi : c.id ≠ id) : taken id source effects = [] := by
  obtain ⟨hp, -⟩ | ⟨link, s, asdu, link', more, -, -, -, -, rfl, hm⟩ := h.plain_or_takes
  · exact taken_of_plain hp
  · rw [taken_cons hm, if_neg fun h => hi h.1]

/-- The connection that is made the active one keeps its responses; others keep at most theirs. -/
theorem pending_activate_sublist (hc : o.connection? c.id = some c) {link : StationLink}
    (hl : c.phase = .serving link) (hp : link.point = .acting (.control .startAct)) (id : Nat) :
    List.Sublist
      (((o.put (c.withLink { link with point := .confirming .startCon })).activate c.id).1.pending id)
      (o.pending id) := by
  have hput : (o.put (c.withLink { link with point := .confirming .startCon })).connection? c.id =
      some (c.withLink { link with point := .confirming .startCon }) := connection?_put hc rfl
  by_cases hid : c.id = id
  · subst hid
    have hown : afterActivation c.id (c.withLink { link with point := .confirming .startCon }) =
        { c with active := true }.withLink { link with point := .confirming .startCon } := if_pos rfl
    rw [pending_of_connection? hc, pending, connection?_activate, hput, Option.map_some, hown,
      StationConnection.pending_eq hl (.inr (hp ▸ rfl))]
    exact StationConnection.pending_withLink_sublist { c with active := true } _
  · have hsame : (o.put (c.withLink { link with point := .confirming .startCon })).connection? id =
        o.connection? id := connection?_put_of_ne hid
    rw [pending, pending, connection?_activate, hsame]
    cases hd : o.connection? id with
    | none => exact List.Sublist.refl _
    | some d =>
      rw [Option.map_some, Option.elim_some, Option.elim_some, afterActivation,
        if_neg (id_of_connection? hd ▸ Ne.symm hid)]
      split
      · exact d.pending_deactivate_sublist
      · exact List.Sublist.refl _

theorem pending_admit_sublist (o : Outstation) (peer : String) (deadline : Millis) (id : Nat) :
    List.Sublist
      (pending
        { o with
          nextId := o.nextId + 1
          connections := o.connections ++ [{ id := o.nextId, peer, phase := .securing deadline }] }
        id)
      (o.pending id) := by
  simp only [pending, connection?, List.find?_append]
  cases o.connections.find? (·.id == id) with
  | some c => exact List.Sublist.refl _
  | none =>
    rw [Option.none_or, List.find?_singleton]
    split <;> exact List.nil_sublist _

theorem Change.accounts (hc : Change o now pushed effects o') (id : Nat) :
    Accounts id effects (o.pending id) (o'.pending id) := by
  cases hc with
  | begins hc hb =>
    exact accounts_put hc hb.keeps.id hb.accounts fun _ => taken_of_plain hb.plain
  | proceeds hc hp => exact accounts_put hc hp.keeps.id hp.accounts fun hi => taken_of_ne hp hi
  | activated hc hl hp ha =>
    obtain rfl := id_of_connection? hc
    exact accounts_of_sublist (taken_of_plain (plain_activate _ _))
      (pending_activate_sublist hc hl hp id)
  | admitted ha hlt peer deadline =>
    refine accounts_of_sublist ?_ (pending_admit_sublist o peer deadline id)
    obtain rfl | rfl := ha
    all_goals rfl
  | pushed asdu =>
    refine accounts_of_sublist ?_ (List.Sublist.refl _)
    simp [taken, push, List.filterMap_map]
  | woke hi hc =>
    refine accounts_put hc (StationConnection.id_ask _ _) (accounts_of_sublist rfl ?_) fun _ => rfl
    rw [StationConnection.pending_ask _ (.inl rfl)]
  | _ => exact accounts_of_sublist rfl (List.Sublist.refl _)

/-! ## What goes to the master -/

theorem carried_of_bare {i : Nat} (h : ∀ e ∈ effects, e.Bare i) (id : Nat) :
    carried id effects = [] := by
  refine List.filterMap_eq_nil_iff.2 fun e he => ?_
  have hb := h e he
  cases e with
  | sent j frame =>
    dsimp only
    rw [hb.2, ite_self]
  | _ => rfl

theorem carried_begins (h : c.Begins o now effects c') (id : Nat) : carried id effects = [] := by
  cases h with
  | ended hc hp he s =>
    rw [carried_append, carried_of_bare he.bare]
    rfl
  | @frame link octets rest frame inbound hc hp hd hr =>
    have he : ∀ e ∈ .received c.id octets :: sentFrames c.id (link.session.receive frame now),
        e.Bare c.id :=
      List.forall_mem_cons.2 ⟨rfl, bare_sentFrames (link.session.bare_receive frame now) c.id⟩
    exact carried_of_bare he id
  | timers => exact carried_of_bare (bare_sentFrames (Session.bare_onTimer _ now) c.id) id
  | _ => rfl

theorem carried_sentFrames {α : Type} (id i : Nat) (outcome : Session.Outcome α) :
    carried id (sentFrames i outcome) = if i = id then outcome.written.filterMap (·.asdu) else [] := by
  rw [carried, sentFrames, List.filterMap_map]
  split
  · simp [*]
  · simp [*]

/-- A task that takes an ASDU sends it, at most. -/
theorem covered_takes (c : StationConnection) (source : Source) (asdu : Asdu) (s : Session)
    (now : Millis) :
    Covered id (.taken c source asdu :: sentFrames c.id (s.sendInformation asdu.encode now)) := by
  have he := StationConnection.plain_sentFrames c.id (s.sendInformation asdu.encode now)
  have hc : carried id (.taken c source asdu :: sentFrames c.id (s.sendInformation asdu.encode now)) =
      carried id (sentFrames c.id (s.sendInformation asdu.encode now)) := rfl
  rw [Covered, hc, carried_sentFrames, taken_cons he, taken_cons he]
  by_cases hid : c.id = id
  · have hle := (s.sendInformation_carries asdu.encode now).subperm
    cases source <;> simpa [hid] using hle
  · rw [if_neg hid]
    exact List.nil_subperm

/-- A task sends no other ASDU than the one that it takes. -/
theorem covered_proceeds {queue : OutboundQueue} (h : c.Proceeds o now effects c' queue)
    (id : Nat) : Covered id effects := by
  cases h with
  | dispatched hc hp ha hd =>
    exact covered_of_nil (filterMap_dispatched ha (StationConnection.isRegistered_of_link hc)
      (fun _ => rfl) (fun _ _ => rfl) fun _ => rfl)
  | stopped =>
    refine covered_of_nil ?_
    split <;> rfl
  | confirmed =>
    exact covered_of_nil (carried_of_bare (bare_sentFrames (Session.bare_sendControl _ _ now) c.id) id)
  | @sent link link' source asdu _ hc hp hs hn hr =>
    exact covered_takes c source asdu link'.session now
  | _ => exact covered_of_nil rfl

theorem carried_activate (o : Outstation) (i id : Nat) : carried id (o.activate i).2 = [] := by
  simp [carried, activate, List.filterMap_map]

theorem Change.covered (hc : Change o now pushed effects o') (id : Nat) : Covered id effects := by
  cases hc with
  | proceeds hc hp => exact covered_proceeds hp id
  | begins hc hb => exact covered_of_nil (carried_begins hb id)
  | activated => exact covered_of_nil (carried_activate _ _ id)
  | admitted ha =>
    obtain rfl | rfl := ha
    all_goals exact covered_of_nil rfl
  | pushed asdu =>
    refine covered_of_nil ?_
    simp [carried, push, List.filterMap_map]
  | _ => exact covered_of_nil rfl

/-! ## In every interleaving -/

theorem accounts_interleave (o : Outstation) (moves : List (Millis × Move)) (id : Nat) :
    Accounts id (o.interleave moves).2 (o.pending id) ((o.interleave moves).1.pending id) :=
  history_induction (P := fun _ o' effects => Accounts id effects (o.pending id) (o'.pending id))
    (accounts_of_sublist rfl (List.Sublist.refl _))
    (fun _ o' _ m h => h.append ((change_move o' m.1 m.2).accounts id)) moves

theorem covered_interleave (o : Outstation) (moves : List (Millis × Move)) (id : Nat) :
    Covered id (o.interleave moves).2 :=
  history_induction (o := o) (P := fun _ _ effects => Covered id effects) (covered_of_nil rfl)
    (fun _ o' _ m h => h.append ((change_move o' m.1 m.2).covered id)) moves

/-- **Discarded responses are never sent.** Take any moment at which a connection is not active and has no
response that waits, or its task is to find out next that it is not active, as after a stop of its data
transfer. Whatever happens then, and in any order: what goes to its master is data from the queue, ASDUs
that its task had been asked to send and had not taken up, and what it gets later on. -/
theorem interleave_no_stale_responses (o : Outstation) (moves : List (Millis × Move))
    (hc : o.connection? id = some c) (ha : c.active = false)
    (hl : ∀ link, c.phase = .serving link → link.outbox = [] ∨ link.point.looks = true) :
    let later := (o.interleave moves).2
    (carried id later).Subperm
      ((taken id .queue later ++ (c.toSend ++ obtained id later)).map Asdu.encode) := by
  intro later
  have hpending : o.pending id = c.toSend :=
    (pending_of_connection? hc).trans (c.pending_of_inactive ha hl)
  have htaken : (taken id .outbox later).Subperm (c.toSend ++ obtained id later) := by
    have h := accounts_interleave o moves id
    rw [Accounts, hpending] at h
    exact (List.sublist_append_left _ _).subperm.trans h
  obtain ⟨asdus, hperm, hsub⟩ := (List.subperm_append_left (taken id .queue later)).2 htaken
  exact (covered_interleave o moves id).trans ⟨asdus.map Asdu.encode, hperm.map _, hsub.map _⟩

/-- A stop of the data transfer while a response waits for the window: it is not sent when the data
transfer is started again and the window opens, but a new one is. -/
theorem interleave_no_stale_responses_stopped :
    let p : Parameters := { k := 1 }
    let response (n : UInt16) : Asdu := .empty p .spontaneous n
    let startAct : Octets := [0x68, 4, 7, 0, 0, 0]
    let o := ((create { parameters := p } {}).interleave
      [(0, .begin (.accept "master" none)), (0, .begin (.handshake 1 true)), (0, .proceed 1),
        (1, .begin (.arrive 1 startAct)), (1, .begin (.readable 1)), (1, .proceed 1), (1, .proceed 1),
        (1, .proceed 1), (1, .proceed 1), (2, .begin (.send 1 (response 1))), (2, .begin (.command 1)),
        (2, .proceed 1), (2, .proceed 1), (2, .proceed 1), (3, .begin (.send 1 (response 2))),
        (3, .begin (.command 1)), (3, .proceed 1), (3, .proceed 1),
        (4, .begin (.arrive 1 [0x68, 4, 0x13, 0, 0, 0])), (4, .begin (.readable 1)),
        (4, .proceed 1)]).1
    let later := (o.interleave
      [(4, .proceed 1), (4, .proceed 1), (5, .begin (.arrive 1 startAct)), (5, .begin (.readable 1)),
        (5, .proceed 1), (5, .proceed 1), (5, .proceed 1), (5, .proceed 1),
        (6, .begin (.send 1 (response 3))), (6, .begin (.command 1)), (6, .proceed 1),
        (6, .proceed 1), (7, .begin (.arrive 1 [0x68, 4, 1, 0, 2, 0])), (7, .begin (.readable 1)),
        (7, .proceed 1), (7, .proceed 1), (7, .proceed 1)]).2
    carried 1 later = [(response 3).encode] ∧ obtained 1 later = [response 3] ∧
      ∃ c link, o.connection? 1 = some c ∧ c.active = false ∧ c.phase = .serving link ∧
        link.outbox = [response 2] ∧ (carried 1 later).Subperm
          ((taken 1 .queue later ++ (c.toSend ++ obtained 1 later)).map Asdu.encode) := by
  intro p response startAct o later
  obtain ⟨c, hc, ha, link, hl, ho, hlooks⟩ : ∃ c ∈ o.connection? 1, c.active = false ∧
      ∃ link ∈ c.link?, link.outbox = [response 2] ∧ link.point.looks = true := by
    decide +kernel
  have hl := StationConnection.phase_of_link? hl
  have hs : ∀ link', c.phase = .serving link' → link'.outbox = [] ∨ link'.point.looks = true := by
    intro link' hl'
    obtain rfl := ConnectionPhase.serving.inj (hl.symm.trans hl')
    exact .inr hlooks
  exact ⟨by decide +kernel, by decide +kernel, c, link, hc, ha, hl, ho,
    interleave_no_stale_responses o _ hc ha hs⟩

/-- **A response can outlive its data transfer.** The first connection has a response that waits for the
window when the second one becomes active. No one tells the task of the first, and when its master
starts the data transfer again and acknowledges what was sent, the old response is sent. -/
theorem run_stale_response :
    let p : Parameters := { k := 1 }
    let response (n : UInt16) : Asdu := .empty p .spontaneous n
    let startAct : Octets := [0x68, 4, 7, 0, 0, 0]
    let step := (create { parameters := p } {}).run
      [(0, .whole (.accept "first" none)), (0, .whole (.accept "second" none)),
        (0, .whole (.handshake 1 true)), (0, .whole (.handshake 2 true)),
        (1, .whole (.arrive 1 startAct)), (1, .whole (.readable 1)),
        (2, .whole (.send 1 (response 1))), (2, .whole (.command 1)),
        (3, .whole (.send 1 (response 2))), (3, .whole (.command 1)),
        (4, .whole (.arrive 2 startAct)), (4, .whole (.readable 2))]
    let later := (step.1.run
      [(5, .whole (.arrive 1 startAct)), (5, .whole (.readable 1)),
        (6, .whole (.arrive 1 [0x68, 4, 1, 0, 2, 0])), (6, .whole (.readable 1))]).2
    obtained 1 step.2 = [response 1, response 2] ∧
      (step.1.connection? 1).map (·.active) = some false ∧
      obtained 1 later = [] ∧ taken 1 .queue later = [] ∧
      carried 1 later = [(response 2).encode] := by
  decide +kernel

end Outstation

end Telecontrol
