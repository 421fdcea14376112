import Telecontrol.Proofs.Outstation.Change
import Telecontrol.Proofs.Session.Quiet

/-!
# The active connection

In every interleaving at most one connection of an outstation is active.

* `StationConnection.Keeps`: what every change of a single connection keeps.
* `Outstation.Sound`: ids are distinct, only connections in use are active, at most one is, and the
  limit is kept. `Outstation.Sound.change`, `Outstation.sound_interleave`: it is so in every state.
* `Outstation.admittedIds`: the ids that were given out.
* `Outstation.interleave_single_active`: the main statement, with what a start of the data transfer does.
-/

namespace Telecontrol

namespace StationConnection

variable {o : Outstation} {now : Millis} {c c' : StationConnection} {effects : List StationEffect}

/-- A connection does not become another one, active or open by a change of its own. -/
structure Keeps (c c' : StationConnection) : Prop where
  id : c'.id = c.id
  active : c'.active = true → c.active = true
  registered : c'.isRegistered = true → c.isRegistered = true
  serving : (c.active = true → ∃ link, c.phase = .serving link) →
    c'.active = true → ∃ link, c'.phase = .serving link

theorem Keeps.withLink (hi : c'.id = c.id) (ha : c'.active = true → c.active = true)
    (hr : c.isRegistered = true) {link : StationLink} (hl : c'.phase = .serving link) : c.Keeps c' :=
  ⟨hi, ha, fun _ => hr, fun _ _ => ⟨link, hl⟩⟩

theorem Keeps.commands (c : StationConnection) (commands : List TaskCommand) :
    c.Keeps { c with commands } :=
  ⟨rfl, fun h => h, fun h => h, fun h => h⟩

theorem Keeps.ask (c : StationConnection) (command : TaskCommand) : c.Keeps (c.ask command) := by
  unfold StationConnection.ask
  split
  · exact .commands c _
  · exact .commands c c.commands

theorem Keeps.letGo (c : StationConnection) (s : Session) : c.Keeps (c.letGo s) :=
  ⟨rfl, nofun, nofun, nofun⟩

theorem Begins.keeps (h : c.Begins o now effects c') : c.Keeps c' := by
  cases h with
  | secured hc => exact .withLink rfl (fun h => h) (by rw [isRegistered, hc]) rfl
  | abandoned hc =>
    refine ⟨rfl, fun h => h, fun h => absurd h Bool.false_ne_true, fun h ha => ?_⟩
    obtain ⟨link, hl⟩ := h ha
    rw [hl] at hc
    cases hc
  | ended => exact .letGo c _
  | stream hc | frame hc | response hc | woken hc | timers hc =>
    exact .withLink rfl (fun h => h) (isRegistered_of_link hc) rfl
  | handed => exact .commands c _
  | asked => exact .ask c _

theorem Proceeds.keeps {queue : OutboundQueue} (h : c.Proceeds o now effects c' queue) :
    c.Keeps c' := by
  cases h with
  | dispatched hc _ ha =>
    rw [performCalls_of_active ha (isRegistered_of_link hc)]
    exact .withLink rfl (fun h => h) (isRegistered_of_link hc) rfl
  | stopped hc => exact .withLink rfl nofun (isRegistered_of_link hc) rfl
  | unconfirmed | unsent => exact .letGo c _
  | ignored hc | restarted hc | confirmed hc | active hc | inactive hc | rested hc | sent hc =>
    exact .withLink rfl (fun h => h) (isRegistered_of_link hc) rfl

end StationConnection

namespace Outstation

variable {o o' : Outstation} {now : Millis} {id : Nat} {c c' d : StationConnection}
  {effects : List StationEffect} {pushed : List Asdu}

/-! ## Activation -/

/-- A connection after the connection `id` was made the only active one. -/
def afterActivation (id : Nat) (c : StationConnection) : StationConnection :=
  if c.id = id then { c with active := true }
  else if c.isRegistered then { c with active := false }
  else c

theorem connections_activate (o : Outstation) (id : Nat) :
    (o.activate id).1.connections = o.connections.map (afterActivation id) := rfl

theorem afterActivation_id (id : Nat) (c : StationConnection) : (afterActivation id c).id = c.id := by
  unfold afterActivation
  split
  · rfl
  · split <;> rfl

theorem afterActivation_phase (id : Nat) (c : StationConnection) :
    (afterActivation id c).phase = c.phase := by
  unfold afterActivation
  split
  · rfl
  · split <;> rfl

theorem map_id_activate (o : Outstation) (id : Nat) :
    (o.activate id).1.connections.map (·.id) = o.connections.map (·.id) := by
  rw [connections_activate, List.map_map]
  exact List.map_congr_left fun c _ => afterActivation_id id c

theorem plain_activate (o : Outstation) (id : Nat) : ∀ e ∈ (o.activate id).2, e.Plain :=
  List.forall_mem_append.2
    ⟨List.forall_mem_map.2 fun _ _ => trivial, List.forall_mem_singleton.2 trivial⟩

theorem openConnections_activate (o : Outstation) (id : Nat) :
    (o.activate id).1.openConnections = o.openConnections := by
  simp only [openConnections, registered, connections_activate, List.filter_map, List.length_map]
  congr 1
  refine List.filter_congr fun c _ => ?_
  rw [Function.comp_apply, StationConnection.isRegistered, afterActivation_phase]
  rfl

theorem connection?_activate (o : Outstation) (id j : Nat) :
    (o.activate id).1.connection? j = (o.connection? j).map (afterActivation id) := by
  have hf : ((·.id == j) ∘ afterActivation id : StationConnection → Bool) = (·.id == j) :=
    funext fun x => by rw [Function.comp_apply, afterActivation_id]
  rw [connection?, connections_activate, List.find?_map, hf]
  rfl

/-! ## Sound outstations -/

/-- An outstation as it can be reached. -/
structure Sound (o : Outstation) : Prop where
  distinct : o.Distinct
  lt_nextId : ∀ c ∈ o.connections, c.id < o.nextId
  serving : ∀ c ∈ o.connections, c.active = true → ∃ link, c.phase = .serving link
  single : ∀ c ∈ o.connections, ∀ d ∈ o.connections, c.active = true → d.active = true → c = d
  limit : o.openConnections ≤ o.config.maxOpenConnections

theorem sound_create (config : OutstationConfig) (handlers : Handlers) :
    (create config handlers).Sound :=
  ⟨List.nodup_nil, nofun, nofun, nofun, Nat.zero_le _⟩

theorem Sound.shared (h : o.Sound) (queue : OutboundQueue) (waking : Nat) (woken : List Nat) :
    Sound { o with queue, waking, woken } :=
  ⟨h.distinct, h.lt_nextId, h.serving, h.single, h.limit⟩

theorem Sound.put (h : o.Sound) (hc : o.connection? id = some c) (hk : c.Keeps c') :
    (o.put c').Sound := by
  have hm := mem_of_connection? hc
  have hput : ∀ d ∈ (o.put c').connections, d = c' ∨ d ∈ o.connections ∧ d.id ≠ c'.id :=
    fun d hd => (mem_put ⟨c, hm, hk.id.symm⟩).1 hd
  refine ⟨h.distinct.put c', ?_, ?_, ?_, ?_⟩
  · intro d hd
    obtain hd | ⟨hd, -⟩ := hput d hd
    · rw [hd, hk.id]
      exact h.lt_nextId c hm
    · exact h.lt_nextId d hd
  · intro d hd
    obtain hd | ⟨hd, -⟩ := hput d hd
    · rw [hd]
      exact hk.serving (h.serving c hm)
    · exact h.serving d hd
  · -- another active connection would have been active beside `c`
    have hother : ∀ d ∈ o.connections, d.id ≠ c'.id → c'.active = true → ¬ d.active = true := by
      intro d hd hi ha hda
      have hcd : c = d := h.single c hm d hd (hk.active ha) hda
      exact hi (hcd ▸ hk.id.symm)
    intro d hd e he hda hea
    obtain hd | ⟨hd, hdi⟩ := hput d hd
    · obtain he | ⟨he, hei⟩ := hput e he
      · rw [hd, he]
      · exact absurd hea (hother e he hei (hd ▸ hda))
    · obtain he | ⟨he, hei⟩ := hput e he
      · exact absurd hda (hother d hd hdi (he ▸ hea))
      · exact h.single d hd e he hda hea
  · refine Nat.le_trans (openConnections_put_le fun hr x hx hi => ?_) h.limit
    rw [h.distinct.eq_of_id_eq hx hm (hi.trans hk.id)]
    exact hk.registered hr

/-- Whoever is active then has the id that was activated. -/
theorem Sound.id_of_active_activate (h : o.Sound) (hd : d ∈ (o.activate id).1.connections)
    (ha : d.active = true) : d.id = id := by
  rw [connections_activate, List.mem_map] at hd
  obtain ⟨x, hx, rfl⟩ := hd
  unfold afterActivation at ha
  rw [afterActivation_id]
  split at ha
  · assumption
  · split at ha
    · cases ha
    · rename_i hr
      obtain ⟨link, hl⟩ := h.serving x hx ha
      exact absurd (StationConnection.isRegistered_of_link hl) hr

theorem Sound.activate (h : o.Sound) (hc : o.connection? id = some c) {link : StationLink}
    (hl : c.phase = .serving link) : (o.activate id).1.Sound := by
  have hdistinct : (o.activate id).1.Distinct := by
    rw [Distinct, map_id_activate]
    exact h.distinct
  refine ⟨hdistinct, ?_, ?_, ?_, ?_⟩
  · rw [connections_activate, List.forall_mem_map]
    intro x hx
    rw [afterActivation_id]
    exact h.lt_nextId x hx
  · intro d hd ha
    have hf := (connection?_eq_some_iff hdistinct).2 ⟨hd, h.id_of_active_activate hd ha⟩
    rw [connection?_activate, hc, Option.map_some] at hf
    refine ⟨link, ?_⟩
    rw [← Option.some.inj hf, afterActivation_phase, hl]
  · intro d hd e he hda hea
    exact hdistinct.eq_of_id_eq hd he
      ((h.id_of_active_activate hd hda).trans (h.id_of_active_activate he hea).symm)
  · rw [openConnections_activate]
    exact h.limit

/-- The active connection is the one that is found to be active. -/
theorem Sound.activeConnection_eq_some_iff (h : o.Sound) :
    o.activeConnection = some c ↔ c ∈ o.connections ∧ c.active = true := by
  constructor
  · intro hc
    exact ⟨List.mem_of_mem_filter (List.mem_of_find?_eq_some hc), List.find?_some hc⟩
  · rintro ⟨hm, ha⟩
    have hr : c ∈ o.registered := by
      obtain ⟨link, hl⟩ := h.serving c hm ha
      exact List.mem_filter.2 ⟨hm, StationConnection.isRegistered_of_link hl⟩
    obtain ⟨d, hd⟩ : ∃ d, o.activeConnection = some d :=
      Option.isSome_iff_exists.1 (List.find?_isSome.2 ⟨c, hr, ha⟩)
    have hdm : d ∈ o.connections := List.mem_of_mem_filter (List.mem_of_find?_eq_some hd)
    rw [hd, h.single d hdm c hm (List.find?_some hd) ha]

theorem Sound.activeConnection_eq_none_iff (h : o.Sound) :
    o.activeConnection = none ↔ ∀ c ∈ o.connections, c.active = false := by
  constructor
  · intro hn c hc
    refine Bool.eq_false_iff.2 fun ha => ?_
    rw [h.activeConnection_eq_some_iff.2 ⟨hc, ha⟩] at hn
    cases hn
  · intro hn
    cases ha : o.activeConnection with
    | none => rfl
    | some c =>
      obtain ⟨hc, hca⟩ := h.activeConnection_eq_some_iff.1 ha
      rw [hn c hc] at hca
      cases hca

theorem Sound.change (h : o.Sound) (hc : Change o now pushed effects o') : o'.Sound := by
  cases hc with
  | idle => exact h
  | refused => exact h
  | admitted ha hl peer deadline =>
    refine ⟨?_, ?_, ?_, ?_, ?_⟩
    · rw [Distinct, List.map_append, List.map_singleton]
      refine List.nodup_append.2 ⟨h.distinct, List.nodup_singleton _, ?_⟩
      intro a ha b hb hab
      obtain ⟨c, hc, rfl⟩ := List.mem_map.1 ha
      have := h.lt_nextId c hc
      have hb : b = o.nextId := List.mem_singleton.1 hb
      omega
    · refine List.forall_mem_append.2 ⟨fun c hc => Nat.lt_succ_of_lt (h.lt_nextId c hc), ?_⟩
      exact List.forall_mem_singleton.2 (Nat.lt_succ_self _)
    · refine List.forall_mem_append.2 ⟨h.serving, ?_⟩
      exact List.forall_mem_singleton.2 fun ha => absurd ha Bool.false_ne_true
    · intro c hc d hd hca hda
      rcases List.mem_append.1 hc with hc | hc
      · rcases List.mem_append.1 hd with hd | hd
        · exact h.single c hc d hd hca hda
        · rw [List.mem_singleton.1 hd] at hda
          cases hda
      · rw [List.mem_singleton.1 hc] at hca
        cases hca
    · simp only [openConnections, registered, List.filter_append, List.length_append] at hl ⊢
      exact hl
  | begins hc hb => exact h.put hc hb.keeps
  | @proceeds id c c' effects queue hc hp =>
    exact Sound.put (h.shared queue o.waking o.woken) hc hp.keeps
  | @activated id c link hc hl hp ha =>
    obtain rfl := id_of_connection? hc
    have hk : c.Keeps (c.withLink { link with point := .confirming .startCon }) :=
      .withLink rfl (fun h => h) (StationConnection.isRegistered_of_link hl) rfl
    exact (h.put hc hk).activate (connection?_put hc rfl) rfl
  | pushed asdu => exact h.shared _ _ _
  | lookedUp => exact h.shared _ _ _
  | @woke id c hi hc => exact Sound.put (h.shared o.queue o.waking (o.woken.erase id)) hc (.ask c _)
  | wokeNone => exact h.shared _ _ _
  | handlers handlers => exact ⟨h.distinct, h.lt_nextId, h.serving, h.single, h.limit⟩

/-! ## In every interleaving -/

theorem Sound.interleave (h : o.Sound) (moves : List (Millis × Move)) : (o.interleave moves).1.Sound :=
  history_induction (P := fun _ o _ => o.Sound) h (fun _ o _ m h => h.change (change_move o m.1 m.2))
    moves

theorem sound_interleave (config : OutstationConfig) (handlers : Handlers)
    (moves : List (Millis × Move)) : ((create config handlers).interleave moves).1.Sound :=
  (sound_create config handlers).interleave moves

theorem Change.config_eq (hc : Change o now pushed effects o') : o'.config = o.config := by
  cases hc <;> rfl

theorem config_interleave (o : Outstation) (moves : List (Millis × Move)) :
    (o.interleave moves).1.config = o.config :=
  history_induction (P := fun _ o' _ => o'.config = o.config) rfl
    (fun _ o' _ m h => (change_move o' m.1 m.2).config_eq.trans h) moves

/-- The ids that were given out, in order. -/
def admittedIds (effects : List StationEffect) : List Nat :=
  effects.filterMap fun
    | .admitted id => some id
    | _ => none

theorem admittedIds_append (effects more : List StationEffect) :
    admittedIds (effects ++ more) = admittedIds effects ++ admittedIds more :=
  List.filterMap_append

theorem admittedIds_of_plain (h : ∀ e ∈ effects, e.Plain) : admittedIds effects = [] := by
  refine List.filterMap_eq_nil_iff.2 fun e he => ?_
  cases e with
  | admitted id => cases h _ he
  | _ => rfl

theorem Change.map_id (hc : Change o now pushed effects o') :
    o'.connections.map (·.id) = o.connections.map (·.id) ++ admittedIds effects := by
  cases hc with
  | admitted ha hl peer deadline =>
    obtain rfl | rfl := ha
    all_goals exact List.map_append
  | begins hc hb => rw [map_id_put, admittedIds_of_plain hb.plain, List.append_nil]
  | proceeds hc hp =>
    have hn : admittedIds effects = [] := by
      obtain ⟨h, -⟩ | ⟨_, _, _, _, more, -, -, -, -, rfl, h⟩ := hp.plain_or_takes
      · exact admittedIds_of_plain h
      · have hm : admittedIds more = [] := admittedIds_of_plain h
        exact hm
    rw [map_id_put, hn, List.append_nil]
  | activated hc hl hp ha =>
    rw [map_id_activate, map_id_put, admittedIds_of_plain (plain_activate _ _), List.append_nil]
  | pushed asdu =>
    have hn : admittedIds (o.push asdu).2 = [] := by
      simp [push, admittedIds, List.filterMap_map]
    rw [hn, List.append_nil]
    rfl
  | woke hi hc =>
    rw [map_id_put]
    exact (List.append_nil _).symm
  | _ => exact (List.append_nil _).symm

theorem map_id_interleave (config : OutstationConfig) (handlers : Handlers)
    (moves : List (Millis × Move)) :
    ((create config handlers).interleave moves).1.connections.map (·.id) =
      admittedIds ((create config handlers).interleave moves).2 := by
  refine history_induction (P := fun _ o effects => o.connections.map (·.id) = admittedIds effects) rfl
    (fun _ o effects m h => ?_) moves
  rw [admittedIds_append, (change_move o m.1 m.2).map_id, h]

/-! ## The start of the data transfer -/

/-- A task takes a start of the data transfer off its stream. -/
theorem takeFrame_startAct (hc : o.connection? id = some c) {link : StationLink}
    (hl : c.phase = .serving link) (hp : link.point = .waiting) {octets rest : Octets} {frame : Apdu}
    (hd : Apdu.decode link.inbound = .frame octets rest (.ok frame))
    (hf : frame.apci = .unnumbered .startAct) (now : Millis) :
    (o.takeFrame id now).1.connection? id =
      some (c.withLink
        { link with
          session := link.session.counted now
          inbound := rest
          point := .acting (.control .startAct) }) := by
  have hr : link.session.receive frame now =
      .done (link.session.counted now) (.control .startAct) := by
    simp only [Session.receive, hf, Session.receiveControl]
  rw [takeFrame, onWaiting, onLink_of hc hl, if_pos hp, hd]
  simp only [after, receiveFrame, hr, Session.Outcome.done]
  have hi : c.id = id := id_of_connection? hc
  exact connection?_put hc hi

/-- It makes its connection the active one, if it is not. -/
theorem proceed_startAct (hc : o.connection? id = some c) {link : StationLink}
    (hl : c.phase = .serving link) (hp : link.point = .acting (.control .startAct)) (now : Millis) :
    (o.proceed id now).1.connection? id =
      some { c.withLink { link with point := .confirming .startCon } with active := true } := by
  have hi := id_of_connection? hc
  rw [proceed, onLink_of hc hl, hp]
  simp only [act]
  split
  · rename_i ha
    have he : c.withLink { link with point := .confirming .startCon } =
        { c.withLink { link with point := .confirming .startCon } with active := true } := by
      rw [StationConnection.withLink, ha]
    rw [← he]
    exact connection?_put hc hi
  · have hput : (o.put (c.withLink { link with point := .confirming .startCon })).connection? id =
        some (c.withLink { link with point := .confirming .startCon }) := connection?_put hc hi
    rw [hi, connection?_activate, hput, Option.map_some, afterActivation]
    exact congrArg some (if_pos hi)

/-- And it confirms that, as long as the stream takes octets. -/
theorem proceed_startCon (hc : o.connection? id = some c) {link : StationLink}
    (hl : c.phase = .serving link) (hp : link.point = .confirming .startCon)
    (hw : link.session.writable = true) (now : Millis) :
    (o.proceed id now).2 = [.sent id (.unnumbered .startCon)] ∧
      ∃ link', (o.proceed id now).1.connection? id = some (c.withLink link') := by
  have hwrite : link.session.write (.unnumbered .startCon) =
      ⟨link.session.sent, [.unnumbered .startCon], .ok ()⟩ := Session.write_ok hw trivial
  have hs : link.session.sendControl .startCon now =
      ⟨link.session.sent, [.unnumbered .startCon], .ok ()⟩ := by
    rw [Session.sendControl, hwrite]
    rfl
  have hi := id_of_connection? hc
  rw [proceed, onLink_of hc hl, hp]
  simp only [conclude, hs, after, sentFrames, hi, List.map_cons, List.map_nil, List.append_nil]
  exact ⟨trivial, _, connection?_put hc hi⟩

/-- In three moves a start of the data transfer is taken, acted on and confirmed. -/
theorem interleave_startAct (hc : o.connection? id = some c) {link : StationLink}
    (hl : c.phase = .serving link) (hp : link.point = .waiting) {octets rest : Octets} {frame : Apdu}
    (hd : Apdu.decode link.inbound = .frame octets rest (.ok frame))
    (hf : frame.apci = .unnumbered .startAct) (hw : link.session.writable = true) (now : Millis) :
    let later := o.interleave [(now, .begin (.readable id)), (now, .proceed id), (now, .proceed id)]
    .sent id (.unnumbered .startCon) ∈ later.2 ∧
      ∃ c', later.1.connection? id = some c' ∧ c'.active = true := by
  intro later
  have h₁ := takeFrame_startAct hc hl hp hd hf now
  have h₂ := proceed_startAct h₁ rfl rfl now
  obtain ⟨hsent, link', h₃⟩ := proceed_startCon h₂ rfl rfl hw now
  refine ⟨?_, _, h₃, rfl⟩
  simp only [later, interleave, history, andThen, after, move, begin, hsent, List.append_nil,
    List.mem_append, List.mem_singleton, or_true]

/-- **Exactly one connection carries the data transfer.** Whatever the connections, the masters and the
application do, and in any order: at most one connection is active, it is registered, and it is the one
that the outstation finds. The limit is kept and no id is given out twice. When a task has taken a start
of the data transfer, acted on it and confirmed it, its connection is the active one. -/
theorem interleave_single_active (config : OutstationConfig) (handlers : Handlers)
    (moves : List (Millis × Move)) :
    let step := (create config handlers).interleave moves
    let o := step.1
    (∀ c ∈ o.connections, ∀ d ∈ o.connections, c.active = true → d.active = true → c = d) ∧
      (∀ c ∈ o.connections, c.active = true → c ∈ o.registered) ∧
      (∀ c, o.activeConnection = some c ↔ c ∈ o.connections ∧ c.active = true) ∧
      (o.activeConnection = none ↔ ∀ c ∈ o.connections, c.active = false) ∧
      o.openConnections ≤ config.maxOpenConnections ∧
      o.connections.map (·.id) = admittedIds step.2 ∧ (admittedIds step.2).Nodup ∧
      ∀ (now : Millis) (id : Nat) (c : StationConnection) (link : StationLink)
        (octets rest : Octets) (frame : Apdu),
        o.connection? id = some c → c.phase = .serving link → link.point = .waiting →
        Apdu.decode link.inbound = .frame octets rest (.ok frame) →
        frame.apci = .unnumbered .startAct → link.session.writable = true →
        let later :=
          o.interleave [(now, .begin (.readable id)), (now, .proceed id), (now, .proceed id)]
        .sent id (.unnumbered .startCon) ∈ later.2 ∧
          ∃ c', later.1.activeConnection = some c' ∧ c'.id = id := by
  intro step o
  have h : o.Sound := sound_interleave config handlers moves
  have hids : o.connections.map (·.id) = admittedIds step.2 :=
    map_id_interleave config handlers moves
  refine ⟨h.single, fun c hc ha => ?_, fun c => h.activeConnection_eq_some_iff,
    h.activeConnection_eq_none_iff, ?_, hids, hids ▸ h.distinct, ?_⟩
  · exact List.mem_of_find?_eq_some (h.activeConnection_eq_some_iff.2 ⟨hc, ha⟩)
  · have hconfig : o.config = config := config_interleave (create config handlers) moves
    exact hconfig ▸ h.limit
  · intro now id c link octets rest frame hc hl hp hd hf hw later
    obtain ⟨hsent, c', hc', ha⟩ := interleave_startAct hc hl hp hd hf hw now
    have hlater : later.1.Sound := by
      have := sound_interleave config handlers
        (moves ++ [(now, .begin (.readable id)), (now, .proceed id), (now, .proceed id)])
      rw [interleave_append] at this
      exact this
    refine ⟨hsent, c', ?_, id_of_connection? hc'⟩
    exact hlater.activeConnection_eq_some_iff.2 ⟨mem_of_connection? hc', ha⟩

/-- Two masters: the second takes the data transfer over. -/
theorem interleave_single_active_two :
    let moves : List (Millis × Move) :=
      [(0, .begin (.accept "first" none)), (0, .begin (.accept "second" none)),
        (0, .begin (.handshake 1 true)), (0, .proceed 1),
        (0, .begin (.handshake 2 true)), (0, .proceed 2),
        (1, .begin (.arrive 1 [0x68, 4, 7, 0, 0, 0])), (1, .begin (.readable 1)), (1, .proceed 1),
        (1, .proceed 1), (2, .begin (.arrive 2 [0x68, 4, 7, 0, 0, 0]))]
    let o := ((create {} {}).interleave moves).1
    let later := o.interleave [(2, .begin (.readable 2)), (2, .proceed 2), (2, .proceed 2)]
    o.activeConnection.map (·.id) = some 1 ∧
      .sent 2 (.unnumbered .startCon) ∈ later.2 ∧
      ∃ c', later.1.activeConnection = some c' ∧ c'.id = 2 := by
  intro moves o later
  have h := interleave_single_active {} {} moves
  exact ⟨by decide, h.2.2.2.2.2.2.2 2 2 _ _ _ _ _ rfl rfl rfl rfl rfl rfl⟩

end Outstation

end Telecontrol
