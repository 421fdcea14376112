import Mathlib.Data.List.Infix
import Telecontrol.Proofs.Outstation.Dispatching
import Telecontrol.Proofs.Outstation.Responses
import Telecontrol.Proofs.Outstation.View

/-!
# The order of responses

A connection sends what it gets in the order in which it got it. Responses go through two stages: the
commands that its task is asked to carry out, and those that wait for the window, where the replies of the
outstation itself come in. Data from the queue go around both.

* `Outstation.Origin`, `Outstation.obtainedFrom`: where the ASDUs of a connection come from.
* `Outstation.Waits`: what waits in both stages, with its origins.
* `Outstation.Flow`: what is sent and what waits then, each origin for itself, is what waited before and
  came in; all of it, if nothing was lost.
* `Outstation.passes_view`: every change is such a flow. Only a task that finds its connection inactive, and
  the end of the connection, lose something.
* `Outstation.responses_in_order`: the main statement.
-/

namespace Telecontrol

namespace Outstation

/-- Where an ASDU comes from that a connection sends: from the application, also from a handler
that it was called with; from the outstation itself, in reply to a command; or from the queue. -/
inductive Origin where
  | application
  | outstation
  | queue
  deriving DecidableEq, Repr, Inhabited

/-- The ASDUs that a connection got from one origin, in order. -/
def obtainedFrom (id : Nat) (origin : Origin) (effects : List StationEffect) : List Asdu :=
  effects.filterMap fun
    | .accepted i asdu => if i = id ∧ origin = .application then some asdu else none
    | .replied i asdu => if i = id ∧ origin = .outstation then some asdu else none
    | .taken c .queue asdu => if c.id = id ∧ origin = .queue then some asdu else none
    | _ => none

/-- The ASDUs of one origin. -/
def ofOrigin (origin : Origin) (asdus : List (Origin × Asdu)) : List Asdu :=
  (asdus.filter (·.1 = origin)).map (·.2)

/-- The responses of a connection that wait for the window. -/
def outbox (found : Option StationConnection) : List Asdu :=
  (found.bind (·.link?)).elim [] (·.outbox)

/-- The ASDUs that wait to be sent on a connection, in the order in which they will be, with their
origins. -/
def Waits (found : Option StationConnection) (waiting : List (Origin × Asdu)) : Prop :=
  ∃ held, held.map (·.2) = outbox found ∧
    waiting = held ++ (found.elim [] (·.toSend)).map fun asdu => (.application, asdu)

/-- What is sent on a connection, and what waits then, has waited before or come in, in the same order; if
`whole`, nothing is missing. -/
def Flow (whole : Prop) (id : Nat) (effects : List StationEffect)
    (before after : List (Origin × Asdu)) : Prop :=
  ∃ sent : List (Origin × Asdu), carried id effects = sent.map (·.2.encode) ∧
    ∀ origin,
      (ofOrigin origin (sent ++ after)).Sublist
          (ofOrigin origin before ++ obtainedFrom id origin effects) ∧
        (whole →
          ofOrigin origin (sent ++ after) = ofOrigin origin before ++ obtainedFrom id origin effects)

/-- There is such a flow to what waits on a connection in its new state. -/
def Passes (whole : Prop) (id : Nat) (effects : List StationEffect) (before : List (Origin × Asdu))
    (found : Option StationConnection) : Prop :=
  ∃ after, Waits found after ∧ Flow whole id effects before after

/-- The task of a connection finds out that it is not active. -/
def FindsInactive (found found' : Option StationConnection) : Prop :=
  ∃ c link, found = some c ∧ c.phase = .serving link ∧ link.point = .due ∧ c.active = false ∧
    ∃ c' link', found' = some c' ∧ c'.phase = .serving link' ∧ link'.point = .waiting

variable {o : Outstation} {now : Millis} {id : Nat} {c c' : StationConnection} {link link' : StationLink}
  {found found' : Option StationConnection} {effects more : List StationEffect} {origin : Origin}
  {before between after waiting : List (Origin × Asdu)} {whole whole' : Prop}

theorem ofOrigin_append (asdus later : List (Origin × Asdu)) :
    ofOrigin origin (asdus ++ later) = ofOrigin origin asdus ++ ofOrigin origin later := by
  rw [ofOrigin, List.filter_append, List.map_append]
  rfl

theorem obtainedFrom_append (effects more : List StationEffect) :
    obtainedFrom id origin (effects ++ more) =
      obtainedFrom id origin effects ++ obtainedFrom id origin more :=
  List.filterMap_append

theorem Flow.append (h : Flow whole id effects before between) (hm : Flow whole' id more between after) :
    Flow (whole ∧ whole') id (effects ++ more) before after := by
  obtain ⟨sent, hs, h⟩ := h
  obtain ⟨sent', hs', h'⟩ := hm
  refine ⟨sent ++ sent', by rw [carried_append, hs, hs', List.map_append], fun origin => ?_⟩
  have he := h origin
  have hm := h' origin
  rw [ofOrigin_append] at he hm
  rw [List.append_assoc, ofOrigin_append, ofOrigin_append, obtainedFrom_append]
  refine ⟨?_, fun ⟨hw, hw'⟩ => ?_⟩
  · refine (hm.1.append_left _).trans ?_
    rw [← List.append_assoc, ← List.append_assoc]
    exact he.1.append_right _
  · rw [hm.2 hw', ← List.append_assoc, he.2 hw, List.append_assoc]

theorem Flow.imp (h : Flow whole id effects before after) (hw : whole' → whole) :
    Flow whole' id effects before after := by
  obtain ⟨sent, hs, h⟩ := h
  exact ⟨sent, hs, fun origin => ⟨(h origin).1, (h origin).2 ∘ hw⟩⟩

theorem ofOrigin_map (other : Origin) (asdus : List Asdu) :
    ofOrigin origin (asdus.map fun asdu => (other, asdu)) = if other = origin then asdus else [] := by
  by_cases h : other = origin <;> simp [ofOrigin, List.filter_map, Function.comp_def, h]

theorem flow_of_eq (sent : List (Origin × Asdu)) (hc : carried id effects = sent.map (·.2.encode))
    (h : ∀ origin,
      ofOrigin origin (sent ++ after) = ofOrigin origin before ++ obtainedFrom id origin effects)
    (whole : Prop) : Flow whole id effects before after :=
  ⟨sent, hc, fun origin => ⟨by rw [h], fun _ => h origin⟩⟩

/-- Nothing happens to what waits. -/
theorem flow_still (hc : carried id effects = []) (ho : ∀ origin, obtainedFrom id origin effects = [])
    (whole : Prop) (waiting : List (Origin × Asdu)) : Flow whole id effects waiting waiting :=
  flow_of_eq [] hc (fun origin => by rw [ho, List.append_nil, List.nil_append]) whole

/-- Something is lost. -/
theorem flow_lost (hc : carried id effects = []) (ha : after.Sublist before) (hw : ¬ whole) :
    Flow whole id effects before after := by
  refine ⟨[], hc, fun origin => ⟨?_, fun h => absurd h hw⟩⟩
  exact ((ha.filter _).map _).trans (List.sublist_append_left _ _)

/-! ## What one connection does -/

theorem obtainedFrom_sentFrames {α : Type} (i : Nat) (outcome : Session.Outcome α) :
    obtainedFrom id origin (sentFrames i outcome) = [] := by
  simp [obtainedFrom, sentFrames, List.filterMap_map]

theorem obtainedFrom_accepted (asdus : List Asdu) :
    obtainedFrom id origin (asdus.map (.accepted id)) = if .application = origin then asdus else [] := by
  simp only [obtainedFrom, List.filterMap_map, Function.comp_def, true_and]
  by_cases h : .application = origin
  · simp [← h]
  · simp [h, Ne.symm h]

theorem obtainedFrom_replied (asdus : List Asdu) :
    obtainedFrom id origin (asdus.map (.replied id)) = if .outstation = origin then asdus else [] := by
  simp only [obtainedFrom, List.filterMap_map, Function.comp_def, true_and]
  by_cases h : .outstation = origin
  · simp [← h]
  · simp [h, Ne.symm h]

theorem outbox_of_link (hc : c.phase = .serving link) : outbox (some c) = link.outbox := by
  rw [outbox, Option.bind_some, StationConnection.link?_of_serving hc, Option.elim_some]

theorem outbox_of_no_link (hc : ∀ link, c.phase ≠ .serving link) : outbox (some c) = [] := by
  rw [outbox, Option.bind_some, StationConnection.link?_eq_none hc, Option.elim_none]

/-- Neither stage changes. -/
theorem Waits.same (h : Waits (some c) waiting) (ho : outbox (some c') = outbox (some c))
    (ht : c'.toSend = c.toSend) : Waits (some c') waiting := by
  obtain ⟨held, hh, hw⟩ := h
  exact ⟨held, hh.trans ho.symm, by rw [hw, Option.elim_some, Option.elim_some, ht]⟩

theorem Waits.sameLink (h : Waits (some c) waiting) (hc : c.phase = .serving link)
    (hc' : c'.phase = .serving link') (ho : link'.outbox = link.outbox) (ht : c'.toSend = c.toSend) :
    Waits (some c') waiting :=
  h.same (by rw [outbox_of_link hc, outbox_of_link hc', ho]) ht

theorem waits_nil (ho : outbox (some c) = []) (ht : c.toSend = []) : Waits (some c) [] :=
  ⟨[], ho.symm, by rw [Option.elim_some, ht]; rfl⟩

theorem Waits.still (h : Waits found waiting) (hc : carried id effects = [])
    (ho : ∀ origin, obtainedFrom id origin effects = []) : Passes whole id effects waiting found :=
  ⟨waiting, h, flow_still hc ho whole waiting⟩

/-- A connection that is over sends nothing more. -/
theorem passes_over (hc : carried id effects = []) (hr : c.isRegistered = false)
    (ho : outbox (some c) = []) (ht : c.toSend = []) (hw : whole → Open (some c)) :
    Passes whole id effects before (some c) := by
  refine ⟨[], waits_nil ho ht, flow_lost hc (List.nil_sublist _) fun h => ?_⟩
  cases hr.symm.trans (hw h c rfl)

theorem passes_begins (h : Waits (some c) waiting) (hb : c.Begins o now more c') :
    Passes (Open (some c')) c.id more waiting (some c') := by
  have hcarried := carried_begins hb c.id
  cases hb with
  | secured hc =>
    refine Waits.still (h.same ?_ rfl) hcarried fun _ => rfl
    rw [outbox_of_link rfl, outbox_of_no_link (by simp [hc])]
  | abandoned | ended => exact passes_over hcarried rfl rfl rfl fun h => h
  | stream hc hp ho => exact Waits.still (h.sameLink hc rfl ho rfl) hcarried fun _ => rfl
  | frame hc | timers hc =>
    exact Waits.still (h.sameLink hc rfl rfl rfl) hcarried fun _ => obtainedFrom_sentFrames _ _
  | @response link asdu later hc hp hm =>
    -- the oldest command becomes the latest response
    obtain ⟨held, hh, rfl⟩ := h
    rw [outbox_of_link hc] at hh
    refine Waits.still ⟨held ++ [(.application, asdu)], ?_, ?_⟩ hcarried fun _ => rfl
    · rw [List.map_append, hh, outbox_of_link rfl]
      rfl
    · rw [Option.elim_some, Option.elim_some, StationConnection.toSend, hm, List.append_assoc]
      rfl
  | woken hc hp hm =>
    refine Waits.still (h.sameLink hc rfl rfl ?_) hcarried fun _ => rfl
    rw [StationConnection.toSend, StationConnection.toSend, hm]
    rfl
  | handed ha asdu =>
    obtain ⟨held, hh, rfl⟩ := h
    refine ⟨_, ⟨held, hh, rfl⟩, flow_of_eq [] hcarried (fun origin => ?_) _⟩
    rw [List.nil_append, Option.elim_some, Option.elim_some, StationConnection.toSend_append,
      List.map_append, ← List.append_assoc, ofOrigin_append, ofOrigin_map]
    exact congrArg _ (obtainedFrom_accepted [asdu]).symm
  | asked hm =>
    refine Waits.still (h.same ?_ (c.toSend_ask hm)) hcarried fun _ => rfl
    rw [outbox, outbox, Option.bind_some, Option.bind_some, c.link?_ask]

/-- A dispatch on the active connection hands over what the handlers send. -/
theorem obtainedFrom_performCalls (ha : c.active = true) (hr : c.isRegistered = true) (asdu : Asdu)
    (calls : List HandlerCall) :
    obtainedFrom c.id origin (performCalls c asdu calls).2 =
      if .application = origin then calls.flatMap (·.answer.sends) else [] := by
  rw [StationConnection.performCalls_of_active ha hr]
  dsimp only
  induction calls with
  | nil => exact (ite_self _).symm
  | cons call later ih =>
    have hcall : ∀ results, obtainedFrom c.id origin [.called c.id asdu call results] = [] := fun _ => rfl
    rw [List.flatMap_cons, List.flatMap_cons, obtainedFrom_append, obtainedFrom_append,
      StationConnection.accepted_eq_sends, obtainedFrom_accepted, hcall, List.append_nil, ih]
    split
    · rfl
    · rfl

theorem obtainedFrom_taken (c : StationConnection) (source : Source) (asdu : Asdu) {α : Type}
    (outcome : Session.Outcome α) :
    obtainedFrom c.id origin (.taken c source asdu :: sentFrames c.id outcome) =
      if .queue = origin ∧ source = .queue then [asdu] else [] := by
  rw [← List.singleton_append, obtainedFrom_append, obtainedFrom_sentFrames, List.append_nil]
  cases source <;> cases origin <;> simp [obtainedFrom]

theorem carried_taken (c : StationConnection) (source : Source) (asdu : Asdu) {s : Session} {u : Unit}
    (hr : (s.sendInformation asdu.encode now).result = .ok u) :
    carried c.id (.taken c source asdu :: sentFrames c.id (s.sendInformation asdu.encode now)) =
      [asdu.encode] := by
  rw [sentFrames, Session.sendInformation_written hr]
  simp [carried, Apdu.information]

theorem passes_proceeds {queue : OutboundQueue} (h : Waits (some c) waiting)
    (hp : c.Proceeds o now more c' queue) :
    Passes (¬ FindsInactive (some c) (some c') ∧ Open (some c')) c.id more waiting (some c') := by
  cases hp with
  | ignored hc | restarted hc | active hc | rested hc =>
    exact Waits.still (h.sameLink hc rfl rfl rfl) rfl fun _ => rfl
  | stopped hc =>
    exact Waits.still (h.sameLink hc rfl rfl rfl) (by split <;> rfl) fun _ => by split <;> rfl
  | confirmed hc =>
    exact Waits.still (h.sameLink hc rfl rfl rfl)
      (carried_of_bare (bare_sentFrames (Session.bare_sendControl _ _ now) c.id) _)
      fun _ => obtainedFrom_sentFrames _ _
  | unconfirmed | unsent => exact passes_over rfl rfl rfl rfl And.right
  | @inactive link hc hp ha =>
    obtain ⟨held, hh, rfl⟩ := h
    refine ⟨_, ⟨[], by rw [outbox_of_link rfl]; rfl, rfl⟩,
      flow_lost rfl (List.sublist_append_right held _) fun h => h.1 ?_⟩
    exact ⟨c, link, rfl, hc, hp, ha, _, _, rfl, rfl, rfl⟩
  | @dispatched link octets asdu hc hp ha hd =>
    have hr := StationConnection.isRegistered_of_link hc
    obtain ⟨held, hh, rfl⟩ := h
    rw [outbox_of_link hc] at hh
    -- the reply comes before the commands, and what the handlers send after them
    refine ⟨_, ⟨held ++ (o.handlers.dispatch asdu).reply.toList.map fun asdu => (.outstation, asdu),
      ?_, rfl⟩, flow_of_eq [] ?_ (fun origin => ?_) _⟩
    · rw [outbox_of_link rfl, List.map_append, hh, List.map_map]
      simp [Function.comp_def]
    · exact filterMap_dispatched ha hr (fun _ => rfl) (fun _ _ => rfl) fun _ => rfl
    · have ht := StationConnection.toSend_performCalls ha hr asdu (o.handlers.dispatch asdu).calls
      rw [obtainedFrom_append, obtainedFrom_performCalls ha hr, obtainedFrom_replied, Option.elim_some,
        Option.elim_some]
      have ht' : ((performCalls c asdu (o.handlers.dispatch asdu).calls).1.withLink
          { link with
            outbox := link.outbox ++ (o.handlers.dispatch asdu).reply.toList
            point := .due }).toSend = _ := ht
      rw [ht', List.map_append]
      cases origin <;> simp [ofOrigin_append, ofOrigin_map]
  | @sent link link' source asdu queue hc hp hs hn hr =>
    obtain ⟨held, hh, rfl⟩ := h
    rw [outbox_of_link hc] at hh
    have hcarried := carried_taken c source asdu hr
    obtain ⟨later, ho, rfl, rfl, rfl⟩ | ⟨later, ho, hq, rfl, rfl, rfl⟩ := nextAsdu?_eq_some hn
    · obtain ⟨x, held, rfl, hx, hh⟩ := List.map_eq_cons_iff.1 (hh.trans ho)
      refine ⟨_, ⟨held, by rw [hh, outbox_of_link rfl], rfl⟩,
        flow_of_eq [x] (hx ▸ hcarried) (fun origin => ?_) _⟩
      rw [obtainedFrom_taken, if_neg (by simp), List.append_nil]
      rfl
    · -- the queue comes into play when no response waits
      rw [ho, List.map_eq_nil_iff] at hh
      subst hh
      refine ⟨_, ⟨[], by rw [outbox_of_link rfl]; exact ho.symm, rfl⟩,
        flow_of_eq [(.queue, asdu)] hcarried (fun origin => ?_) _⟩
      have hown : ofOrigin origin [(Origin.queue, asdu)] = if .queue = origin then [asdu] else [] :=
        ofOrigin_map .queue [asdu]
      simp only [obtainedFrom_taken, ofOrigin_append, hown, List.nil_append, Option.elim_some,
        ofOrigin_map, and_true]
      cases origin <;> simp [StationConnection.toSend, StationConnection.withLink]

/-! ## What a change is for a connection -/

/-- Events are reported, but nothing is sent. -/
theorem flow_of_events (h : ∀ e ∈ more, e.subject = some id → ∃ event, e = .event id event)
    (whole : Prop) (waiting : List (Origin × Asdu)) : Flow whole id more waiting waiting := by
  refine flow_still (List.filterMap_eq_nil_iff.2 fun e he => ?_)
    (fun origin => List.filterMap_eq_nil_iff.2 fun e he => ?_) whole waiting
  · cases e with
    | sent i frame =>
      refine if_neg fun hi => ?_
      obtain ⟨_, hs⟩ := h _ he (congrArg some hi)
      cases hs
    | _ => rfl
  · cases e with
    | accepted i asdu | replied i asdu =>
      refine if_neg fun hi => ?_
      obtain ⟨_, hs⟩ := h _ he (congrArg some hi.1)
      cases hs
    | taken c source asdu =>
      cases source with
      | outbox => rfl
      | queue =>
        refine if_neg fun hi => ?_
        obtain ⟨_, hs⟩ := h _ he (congrArg some hi.1)
        cases hs
    | _ => rfl

theorem waits_none : Waits none waiting ↔ waiting = [] := by
  constructor
  · rintro ⟨held, hh, rfl⟩
    rw [List.map_eq_nil_iff.1 hh]
    rfl
  · rintro rfl
    exact ⟨[], rfl, rfl⟩

/-- Only a task that finds its connection inactive, and the end of the connection, lose something. -/
theorem passes_view (h : Waits found waiting) (hv : View o now id found more found') :
    Passes (¬ FindsInactive found found' ∧ Open found') id more waiting found' := by
  cases hv with
  | other he => exact ⟨waiting, h, flow_of_events (fun e hm hs => absurd hs (he e hm)) _ _⟩
  | admitted ha peer deadline =>
    obtain rfl := waits_none.1 h
    refine ⟨[], ⟨[], rfl, rfl⟩, ?_⟩
    obtain rfl | rfl := ha
    · exact flow_still rfl (fun _ => rfl) _ _
    · exact flow_still rfl (fun _ => rfl) _ _
  | begins hi hb =>
    subst hi
    obtain ⟨after, hw, hf⟩ := passes_begins h hb
    exact ⟨after, hw, hf.imp And.right⟩
  | proceeds hi hp =>
    subst hi
    exact passes_proceeds h hp
  | activated hi hl hp ha he =>
    refine ⟨waiting, h.sameLink hl rfl rfl rfl, flow_of_events (fun e hm hs => ?_) _ _⟩
    rcases List.mem_append.1 hm with hm | hm
    · exact absurd hs (he e hm)
    · exact ⟨_, List.mem_singleton.1 hm⟩
  | displaced hi ha hm he =>
    exact ⟨waiting, h.same rfl rfl, flow_of_events (fun e hm hs => ⟨_, he e hm hs⟩) _ _⟩

/-- A connection is not found inactive in the course of some moves. -/
def Undisturbed (o : Outstation) (id : Nat) (moves : List (Millis × Move)) : Prop :=
  ∀ early m, early ++ [m] <+: moves →
    ¬ FindsInactive ((o.interleave early).1.connection? id)
      ((o.interleave (early ++ [m])).1.connection? id)

theorem passes_interleave (h : o.Sound) (hw : Waits (o.connection? id) before)
    (moves : List (Millis × Move)) :
    let step := o.interleave moves
    Passes (o.Undisturbed id moves ∧ Open (step.1.connection? id)) id step.2 before
      (step.1.connection? id) := by
  induction moves using List.reverseRecOn with
  | nil => exact ⟨before, hw, flow_still rfl (fun _ => rfl) _ _⟩
  | append_singleton moves m ih =>
    obtain ⟨between, hb, hf⟩ := ih
    have hv := (change_move (o.interleave moves).1 m.1 m.2).view (h.interleave moves) id
    obtain ⟨after, ha, hf'⟩ := passes_view hb hv
    rw [interleave_concat]
    refine ⟨after, ha, (hf.append hf').imp fun ⟨hu, ho⟩ => ?_⟩
    refine ⟨⟨fun early m he => hu early m (he.trans (List.prefix_append _ _)), hv.open ho⟩, ?_, ho⟩
    have := hu moves m (List.prefix_refl _)
    rwa [interleave_concat] at this

/-! ## What is taken from the queue, and what handlers send -/

/-- A task takes data from the queue when no response waits. -/
theorem View.taken_queue (hv : View o now id found more found') {asdu : Asdu}
    (ht : .taken c .queue asdu ∈ more) (hi : c.id = id) :
    ∃ link, c.phase = .serving link ∧ link.outbox = [] := by
  have hplain (hp : ∀ e ∈ more, e.Plain) : ∃ link, c.phase = .serving link ∧ link.outbox = [] :=
    (hp _ ht).elim
  cases hv with
  | other he => exact absurd (congrArg some hi) (he _ ht)
  | admitted ha => obtain rfl | rfl := ha <;> simp at ht
  | begins hid hb => exact hplain hb.plain
  | activated hid hl hp ha he =>
    rcases List.mem_append.1 ht with ht | ht
    · exact absurd (congrArg some hi) (he _ ht)
    · cases List.mem_singleton.1 ht
  | displaced hid ha hm he => cases he _ ht (congrArg some hi)
  | proceeds hid hp =>
    obtain ⟨hp, -⟩ | ⟨link, source, a, link', later, hl, -, -, hn, rfl, hm⟩ := hp.plain_or_takes
    · exact hplain hp
    · rcases List.mem_cons.1 ht with ht | ht
      · cases ht
        obtain ⟨_, -, hs, -⟩ | ⟨_, ho, -⟩ := nextAsdu?_eq_some hn
        · cases hs
        · exact ⟨link, hl, ho⟩
      · exact (hm _ ht).elim

/-- What a handler sends is accepted as a whole, and nothing comes between. -/
theorem View.called_sends (hv : View o now id found more found') {asdu : Asdu} {call : HandlerCall}
    {results : List (Except Fault Unit)} (hm : .called id asdu call results ∈ more) :
    call.answer.sends <:+: obtainedFrom id .application more := by
  obtain ⟨c, replies, -, rfl, ha, hr, rfl⟩ := hv.dispatched hm
  rw [obtainedFrom_append, obtainedFrom_performCalls ha hr, if_pos rfl, obtainedFrom_replied,
    if_neg nofun, List.append_nil]
  have hcall : call ∈ (o.handlers.dispatch asdu).calls := by
    rw [StationConnection.performCalls_of_active ha hr, List.mem_append] at hm
    obtain hm | hm := hm
    · obtain ⟨other, ho, hm⟩ := List.mem_flatMap.1 hm
      rcases List.mem_append.1 hm with hm | hm
      · obtain ⟨_, -, hs⟩ := List.mem_map.1 hm
        cases hs
      · cases List.mem_singleton.1 hm
        exact ho
    · obtain ⟨_, -, hs⟩ := List.mem_map.1 hm
      cases hs
  obtain ⟨early, late, hsplit⟩ := List.append_of_mem hcall
  rw [hsplit, List.flatMap_append, List.flatMap_cons]
  exact ⟨_, _, List.append_assoc _ _ _⟩

theorem taken_queue_interleave (config : OutstationConfig) (handlers : Handlers)
    (moves : List (Millis × Move)) {asdu : Asdu}
    (ht : .taken c .queue asdu ∈ ((create config handlers).interleave moves).2) :
    ∃ link, c.phase = .serving link ∧ link.outbox = [] := by
  refine view_induction (P := fun effects _ => .taken c .queue asdu ∈ effects →
    ∃ link, c.phase = .serving link ∧ link.outbox = []) c.id nofun
    (fun _ _ _ _ _ _ h hv ht => ?_) config handlers moves ht
  exact (List.mem_append.1 ht).elim h fun ht => hv.taken_queue ht rfl

theorem called_interleave (h : o.Sound) (moves : List (Millis × Move)) {asdu : Asdu} {call : HandlerCall}
    {results : List (Except Fault Unit)} (hm : .called id asdu call results ∈ (o.interleave moves).2) :
    call.answer.sends <:+: obtainedFrom id .application (o.interleave moves).2 := by
  refine (history_induction (o := o) (P := fun _ o effects => o.Sound ∧
    (.called id asdu call results ∈ effects → call.answer.sends <:+: obtainedFrom id .application effects))
    ⟨h, nofun⟩ (fun _ o effects m ⟨h, ih⟩ => ⟨h.change (change_move o m.1 m.2), fun hm => ?_⟩) moves).2 hm
  rw [obtainedFrom_append]
  rcases List.mem_append.1 hm with hm | hm
  · exact (ih hm).trans (List.prefix_append _ _).isInfix
  · exact (((change_move o m.1 m.2).view h id).called_sends hm).trans (List.suffix_append _ _).isInfix

/-! ## The main statement -/

theorem ofOrigin_sublist (origin : Origin) (sent : List (Origin × Asdu)) :
    ((ofOrigin origin sent).map Asdu.encode).Sublist (sent.map (·.2.encode)) := by
  rw [ofOrigin, List.map_map]
  exact List.filter_sublist.map _

/-- **Responses are sent in order.** Whatever the masters, the handlers and the application do, and in any
order: what a connection has sent, and what waits on it, is in the order in which the connection got it from
the application, from the outstation itself and from the queue, and nothing comes twice. From any moment on
nothing is missing, unless a task finds the connection inactive or it ends; so all that one handler call
sends goes to the master in that order. Data are taken from the queue when no response waits. -/
theorem responses_in_order (config : OutstationConfig) (handlers : Handlers)
    (moves more : List (Millis × Move)) (id : Nat) :
    let step := (create config handlers).interleave moves
    let later := step.1.interleave more
    (∃ sent waiting sent' waiting' : List (Origin × Asdu),
      carried id step.2 = sent.map (·.2.encode) ∧ Waits (step.1.connection? id) waiting ∧
      (∀ origin,
        (ofOrigin origin (sent ++ waiting)).Sublist (obtainedFrom id origin step.2)) ∧
      carried id later.2 = sent'.map (·.2.encode) ∧ Waits (later.1.connection? id) waiting' ∧
      (∀ origin,
        (ofOrigin origin (sent' ++ waiting')).Sublist
          (ofOrigin origin waiting ++ obtainedFrom id origin later.2)) ∧
      (step.1.Undisturbed id more → Open (later.1.connection? id) →
        (∀ origin, ofOrigin origin (sent' ++ waiting') =
          ofOrigin origin waiting ++ obtainedFrom id origin later.2) ∧
        ∀ asdu call results, .called id asdu call results ∈ later.2 → waiting' = [] →
          (call.answer.sends.map Asdu.encode).Sublist (carried id later.2))) ∧
    (∀ asdu call results, .called id asdu call results ∈ step.2 →
      call.answer.sends <:+: obtainedFrom id .application step.2) ∧
    ∀ c asdu, .taken c .queue asdu ∈ step.2 → ∃ link, c.phase = .serving link ∧ link.outbox = [] := by
  intro step later
  have h₀ : (create config handlers).Sound := sound_create config handlers
  have h : step.1.Sound := h₀.interleave moves
  have hstart : Waits ((create config handlers).connection? id) [] := waits_none.2 rfl
  obtain ⟨waiting, hw, sent, hs, hf⟩ := passes_interleave h₀ hstart moves
  obtain ⟨waiting', hw', sent', hs', hf'⟩ := passes_interleave h hw more
  refine ⟨⟨sent, waiting, sent', waiting', hs, hw, fun origin => (hf origin).1, hs', hw',
    fun origin => (hf' origin).1, fun hu ho => ⟨fun origin => (hf' origin).2 ⟨hu, ho⟩, ?_⟩⟩, ?_, ?_⟩
  · rintro asdu call results hm rfl
    have he := (hf' .application).2 ⟨hu, ho⟩
    rw [List.append_nil] at he
    have hsends : call.answer.sends.Sublist (ofOrigin .application sent') := by
      rw [he]
      exact (called_interleave h more hm).sublist.trans (List.sublist_append_right _ _)
    rw [hs']
    exact (hsends.map _).trans (ofOrigin_sublist _ _)
  · exact fun asdu call results hm => called_interleave h₀ moves hm
  · exact fun c asdu ht => taken_queue_interleave config handlers moves ht

/-- A handler confirms an interrogation, sends an ASDU and ends the interrogation, while the window takes
one I-frame at a time and the master acknowledges them one by one. -/
theorem responses_in_order_interrogated :
    let p : Parameters := { k := 1 }
    let data : Asdu := .empty p .spontaneous 1
    let answer (asdu : Asdu) : Answer :=
      { actions := [.send (asdu.confirmation false), .send data, .send asdu.termination] }
    let command (cause : UInt8) : Octets := [100, 1, cause, 0, 1, 0, 0, 0, 0, 20]
    let acknowledgement (n : UInt8) : Octets := [0x68, 4, 1, 0, 2 * n, 0]
    let step := (create { parameters := p }
        { interrogation := some fun asdu _ => answer asdu }).interleave
      [(0, .begin (.accept "master" none)), (0, .begin (.handshake 1 true)), (0, .proceed 1),
        (1, .begin (.arrive 1 [0x68, 4, 7, 0, 0, 0])), (1, .begin (.readable 1)), (1, .proceed 1),
        (1, .proceed 1), (1, .proceed 1), (1, .proceed 1)]
    let more : List (Millis × Move) :=
      [(2, .begin (.arrive 1 ([0x68, 14, 0, 0, 0, 0] ++ command 6))), (2, .begin (.readable 1)),
        (2, .proceed 1), (2, .proceed 1), (2, .proceed 1), (2, .begin (.command 1)), (2, .proceed 1),
        (2, .proceed 1), (2, .proceed 1), (2, .begin (.command 1)), (2, .proceed 1), (2, .proceed 1),
        (2, .begin (.command 1)), (2, .proceed 1), (2, .proceed 1),
        (3, .begin (.arrive 1 (acknowledgement 1))), (3, .begin (.readable 1)), (3, .proceed 1),
        (3, .proceed 1), (3, .proceed 1), (3, .proceed 1),
        (4, .begin (.arrive 1 (acknowledgement 2))), (4, .begin (.readable 1)), (4, .proceed 1),
        (4, .proceed 1), (4, .proceed 1), (4, .proceed 1)]
    let later := step.1.interleave more
    carried 1 later.2 = [command 7, data.encode, command 10] ∧
      ∃ asdu call results, .called 1 asdu call results ∈ later.2 ∧
        call.answer.sends.map Asdu.encode = [command 7, data.encode, command 10] ∧
        (call.answer.sends.map Asdu.encode).Sublist (carried 1 later.2) := by
  intro p data answer command acknowledgement step more later
  have hactive : ∀ early ∈ more.inits, ∀ c ∈ (step.1.interleave early).1.connection? 1,
      c.active = true := by decide +kernel
  have hopen : ∀ c ∈ later.1.connection? 1, c.isRegistered = true := by decide +kernel
  have houtbox : outbox (later.1.connection? 1) = [] := by decide +kernel
  have htoSend : (later.1.connection? 1).elim [] (·.toSend) = [] := by decide +kernel
  have hcalls : (calls 1 later.2).map (·.2.answer.sends.map Asdu.encode) =
      [[command 7, data.encode, command 10]] := by decide +kernel
  obtain ⟨⟨asdu, call⟩, hmem, hcall⟩ :=
    List.mem_map.1 (hcalls.symm ▸ List.mem_singleton_self [command 7, data.encode, command 10])
  obtain ⟨results, he⟩ := mem_calls.1 hmem
  obtain ⟨⟨sent, waiting, sent', waiting', -, -, -, -, hw, -, hall⟩, -, -⟩ :=
    responses_in_order { parameters := p } { interrogation := some fun asdu _ => answer asdu } _ more 1
  refine ⟨by decide +kernel, asdu, call, results, he, hcall, ?_⟩
  refine (hall (fun early m hp => ?_) hopen).2 asdu call results he ?_
  · rintro ⟨c, link, hc, -, -, ha, -⟩
    have hp := (List.prefix_append early [m]).trans hp
    cases (hactive early ((List.mem_inits _ _).2 hp) c hc).symm.trans ha
  · obtain ⟨held, hh, rfl⟩ := hw
    rw [houtbox, List.map_eq_nil_iff] at hh
    rw [hh, htoSend]
    rfl

end Outstation

end Telecontrol
