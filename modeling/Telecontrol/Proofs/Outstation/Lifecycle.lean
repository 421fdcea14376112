import Mathlib.Computability.RegularExpressions
import Telecontrol.Proofs.Outstation.View

/-!
# The life of a connection

What the application is told of a connection of an outstation: it is opened, becomes the active one and
loses that role by turns, and is closed.

* `Outstation.events`: what was reported of a connection. `Outstation.lifecycle`: the words that whole lives
  spell.
* `Outstation.Stage`: how far a connection has come. `Outstation.Stage.Step`: what a change reports and where
  it leads. `Outstation.Change.stage`: every change is such a step for every connection.
* `Outstation.Sound.activate_effects`: who hears of an activation, and in which order.
* `Outstation.stop_eq_interleave`: what an outstation does when it stops.
* `Outstation.connection_lifecycle`: the main statement.
-/

namespace Telecontrol

namespace Outstation

open RegularExpression (char)

/-- What was reported of a connection. -/
def events (id : Nat) (effects : List StationEffect) : List ConnectionEvent :=
  effects.filterMap fun
    | .event i event => if i = id then some event else none
    | _ => none

/-- A connection becomes the active one and loses that role. -/
def spell : RegularExpression ConnectionEvent := char .activated * char .deactivated

/-- An open connection that is not the active one. -/
def idling : RegularExpression ConnectionEvent := char .opened * spell.star

/-- A whole life of a connection. -/
def lifecycle : RegularExpression ConnectionEvent :=
  idling * (1 + char .activated) * char .closed

/-- How far a connection has come. -/
inductive Stage where
  | awaited
  | inactive
  | active
  | gone

/-- The stage of what is found under an id. -/
def stage : Option StationConnection → Stage
  | none => .awaited
  | some c =>
    match c.phase with
    | .securing _ => .awaited
    | .serving _ => if c.active then .active else .inactive
    | .ended _ => .gone

namespace Stage

/-- What was reported when a stage is reached. A stream that could not be secured is let go silently. -/
def words : Stage → RegularExpression ConnectionEvent
  | .awaited => 1
  | .inactive => idling
  | .active => idling * char .activated
  | .gone => 1 + lifecycle

/-- A step from one stage to another, with what is reported. -/
inductive Step : Stage → List ConnectionEvent → Stage → Prop where
  | silent {s : Stage} : Step s [] s
  | opened : Step .awaited [.opened] .inactive
  | abandoned : Step .awaited [] .gone
  | activated : Step .inactive [.activated] .active
  | deactivated : Step .active [.deactivated] .inactive
  | closed {s : Stage} (hs : s = .inactive ∨ s = .active) : Step s [.closed] .gone

end Stage

/-! ## Words -/

section

variable {seen more : List ConnectionEvent} {s s' : Stage}

theorem mem_idling :
    seen ∈ idling.matches' ↔
      ∃ n, seen = .opened :: (List.replicate n [.activated, .deactivated]).flatten := by
  constructor
  · rintro ⟨_, rfl, _, ⟨spells, rfl, ht⟩, rfl⟩
    refine ⟨spells.length, ?_⟩
    have hr : spells = List.replicate spells.length [.activated, .deactivated] := by
      refine List.eq_replicate_of_mem fun spell hm => ?_
      obtain ⟨_, rfl, _, rfl, rfl⟩ := ht spell hm
      rfl
    rw [← hr]
    rfl
  · rintro ⟨n, rfl⟩
    refine ⟨[.opened], rfl, _, ⟨_, rfl, fun spell ht => ?_⟩, rfl⟩
    rw [List.eq_of_mem_replicate ht]
    exact ⟨[.activated], rfl, [.deactivated], rfl, rfl⟩

theorem closed_mem_lifecycle (h : seen ∈ Stage.inactive.words.matches' ∨ seen ∈ Stage.active.words.matches') :
    seen ++ [.closed] ∈ lifecycle.matches' := by
  refine Language.append_mem_mul ?_ (Set.mem_singleton _)
  rcases h with h | ⟨before, ht, _, rfl, rfl⟩
  · exact ⟨seen, h, [], .inl rfl, List.append_nil _⟩
  · exact ⟨before, ht, [.activated], .inr rfl, rfl⟩

/-- A step keeps the report in the words of its stage. -/
theorem Stage.Step.mem_words (hs : s.Step more s') (h : seen ∈ s.words.matches') :
    seen ++ more ∈ s'.words.matches' := by
  cases hs with
  | silent => rwa [List.append_nil]
  | opened =>
    obtain rfl : seen = [] := h
    exact mem_idling.2 ⟨0, rfl⟩
  | abandoned =>
    obtain rfl : seen = [] := h
    exact .inl rfl
  | activated => exact Language.append_mem_mul h (Set.mem_singleton _)
  | deactivated =>
    obtain ⟨_, ht, _, rfl, rfl⟩ := h
    obtain ⟨n, rfl⟩ := mem_idling.1 ht
    refine mem_idling.2 ⟨n + 1, ?_⟩
    rw [List.replicate_succ', List.flatten_concat, List.append_assoc]
    rfl
  | closed hs =>
    refine .inr (closed_mem_lifecycle ?_)
    obtain rfl | rfl := hs
    · exact .inl h
    · exact .inr h

theorem Stage.Step.of_activated_mem (h : s.Step more s') (hm : .activated ∈ more) :
    s = .inactive ∧ s' = .active := by
  cases h with
  | activated => exact ⟨rfl, rfl⟩
  | _ => simp at hm

/-- Every report can still become a whole life. -/
theorem Stage.exists_prefix (h : seen ∈ s.words.matches') : ∃ life ∈ lifecycle.matches', seen <+: life := by
  cases s with
  | awaited =>
    obtain rfl : seen = [] := h
    exact ⟨_, closed_mem_lifecycle (.inl (mem_idling.2 ⟨0, rfl⟩)), List.nil_prefix⟩
  | inactive => exact ⟨_, closed_mem_lifecycle (.inl h), List.prefix_append _ _⟩
  | active => exact ⟨_, closed_mem_lifecycle (.inr h), List.prefix_append _ _⟩
  | gone =>
    obtain rfl | h := h
    · exact ⟨_, closed_mem_lifecycle (.inl (mem_idling.2 ⟨0, rfl⟩)), List.nil_prefix⟩
    · exact ⟨seen, h, List.prefix_rfl⟩

theorem closed_notMem_idling (h : seen ∈ idling.matches') : .closed ∉ seen := by
  obtain ⟨n, rfl⟩ := mem_idling.1 h
  intro hm
  rcases List.mem_cons.1 hm with hm | hm
  · cases hm
  · obtain ⟨spell, ht, hm⟩ := List.mem_flatten.1 hm
    rw [List.eq_of_mem_replicate ht] at hm
    simp at hm

theorem getLast?_idling (h : seen ∈ idling.matches') : seen.getLast? ≠ some .activated := by
  obtain ⟨n, rfl⟩ := mem_idling.1 h
  cases n with
  | zero => nofun
  | succ n =>
    rw [List.replicate_succ', List.flatten_concat, ← List.cons_append, List.getLast?_append]
    nofun

/-- What was reported of a connection agrees with what has become of it. -/
structure Lives (found : Option StationConnection) (seen : List ConnectionEvent) : Prop where
  life : ∃ life ∈ lifecycle.matches', seen <+: life
  awaited : found = none ∨ (∃ c deadline, found = some c ∧ c.phase = .securing deadline) → seen = []
  running : ∀ c link, found = some c → c.phase = .serving link →
    seen.head? = some .opened ∧ .closed ∉ seen ∧ (c.active = true ↔ seen.getLast? = some .activated)
  ended : ∀ c traffic, found = some c → c.phase = .ended traffic → seen = [] ∨ seen ∈ lifecycle.matches'

theorem lives_of_mem_words {found : Option StationConnection} (h : seen ∈ (stage found).words.matches') :
    Lives found seen := by
  refine ⟨Stage.exists_prefix h, ?_, ?_, ?_⟩
  · rintro (rfl | ⟨c, deadline, rfl, hp⟩)
    · exact h
    · rw [stage, hp] at h
      exact h
  · rintro c link rfl hp
    rw [stage, hp] at h
    cases ha : c.active with
    | true =>
      rw [ha] at h
      obtain ⟨before, ht, _, rfl, rfl⟩ := h
      refine ⟨?_, ?_, iff_of_true rfl List.getLast?_concat⟩
      · obtain ⟨n, rfl⟩ := mem_idling.1 ht
        rfl
      · rw [List.mem_append, List.mem_singleton]
        exact fun hm => hm.elim (closed_notMem_idling ht) nofun
    | false =>
      rw [ha] at h
      refine ⟨?_, closed_notMem_idling h, iff_of_false nofun (getLast?_idling h)⟩
      obtain ⟨n, rfl⟩ := mem_idling.1 h
      rfl
  · rintro c traffic rfl hp
    rw [stage, hp] at h
    exact h

end

/-! ## One connection -/

section

variable {o : Outstation} {now : Millis} {id : Nat} {c c' : StationConnection}
  {effects more : List StationEffect}

theorem events_append (effects more : List StationEffect) :
    events id (effects ++ more) = events id effects ++ events id more :=
  List.filterMap_append

theorem events_of_subject (h : ∀ e ∈ effects, e.subject ≠ some id) : events id effects = [] := by
  refine List.filterMap_eq_nil_iff.2 fun e he => ?_
  cases e with
  | event i event => exact if_neg fun hi => h _ he (congrArg some hi)
  | _ => rfl

theorem events_own (event : ConnectionEvent) : events id [.event id event] = [event] := by
  simp [events]

theorem events_letGo : events id [.event id .closed, .hungUp id] = [.closed] := by
  simp [events]

theorem events_sentFrames {α : Type} (i : Nat) (outcome : Session.Outcome α) :
    events id (sentFrames i outcome) = [] := by
  simp [events, sentFrames, List.filterMap_map]

theorem stage_serving {link : StationLink} (hc : c.phase = .serving link) :
    stage (some c) = if c.active then .active else .inactive := by
  simp only [stage, hc]

theorem active_of_stage (h : stage (some c) = .active) : c.active = true := by
  cases hp : c.phase with
  | securing deadline =>
    rw [stage, hp] at h
    cases h
  | serving link =>
    rw [stage_serving hp] at h
    refine Bool.not_eq_false _ |>.mp fun ha => ?_
    rw [ha] at h
    cases h
  | ended traffic =>
    rw [stage, hp] at h
    cases h

theorem stage_eq_of_phase (hp : c'.phase = c.phase) (ha : c'.active = c.active) :
    stage (some c') = stage (some c) := by
  simp only [stage, hp, ha]

theorem stage_ask (c : StationConnection) (command : TaskCommand) :
    stage (some (c.ask command)) = stage (some c) :=
  stage_eq_of_phase (c.phase_ask command) (c.active_ask command)

/-- A connection in use can be closed. -/
theorem step_letGo {link : StationLink} (hc : c.phase = .serving link) (s : Session) :
    (stage (some c)).Step [.closed] (stage (some (c.letGo s))) := by
  refine .closed ?_
  rw [stage_serving hc]
  split
  · exact .inr rfl
  · exact .inl rfl

/-- What only concerns the link is not reported. -/
theorem step_withLink {link link' : StationLink} (hc : c.phase = .serving link)
    (hl : c'.phase = .serving link') (ha : c'.active = c.active) :
    (stage (some c)).Step [] (stage (some c')) := by
  rw [stage_serving hc, stage_serving hl, ha]
  exact .silent

end

end Outstation

namespace StationConnection

open Outstation

variable {o : Outstation} {now : Millis} {c c' : StationConnection} {effects : List StationEffect}

theorem Begins.stage (h : c.Begins o now effects c') (hs : c.active = true → ∃ link, c.phase = .serving link) :
    (stage (some c)).Step (events c.id effects) (stage (some c')) := by
  cases h with
  | @secured deadline hc =>
    have ha : c.active = false := by
      refine Bool.eq_false_iff.2 fun ha => ?_
      obtain ⟨link, hl⟩ := hs ha
      rw [hl] at hc
      cases hc
    rw [events_own, Outstation.stage, hc, Outstation.stage, withLink, ha]
    exact .opened
  | abandoned hc =>
    rw [Outstation.stage, hc]
    exact .abandoned
  | @ended link came hc hp he s =>
    have hn : events c.id came = [] := by cases he <;> rfl
    rw [events_append, hn, events_letGo]
    exact step_letGo hc s
  | frame hc hp hd hr =>
    rw [← List.singleton_append, events_append, events_sentFrames]
    exact step_withLink hc rfl rfl
  | timers hc hp hr =>
    rw [events_sentFrames]
    exact step_withLink hc rfl rfl
  | stream hc | response hc | woken hc => exact step_withLink hc rfl rfl
  | handed ha asdu =>
    have hsame : stage (some { c with commands := c.commands ++ [.send asdu] }) = stage (some c) :=
      stage_eq_of_phase rfl rfl
    rw [hsame]
    exact .silent
  | asked =>
    rw [stage_ask]
    exact .silent

theorem Proceeds.stage {queue : OutboundQueue} (h : c.Proceeds o now effects c' queue) :
    (stage (some c)).Step (events c.id effects) (stage (some c')) := by
  cases h with
  | dispatched hc hp ha hd =>
    have hr := isRegistered_of_link hc
    rw [events, filterMap_dispatched ha hr (fun _ => rfl) (fun _ _ => rfl) fun _ => rfl]
    rw [performCalls_of_active ha hr]
    exact step_withLink hc rfl rfl
  | stopped hc hp =>
    cases ha : c.active with
    | true =>
      rw [if_pos rfl, events_own, stage_serving hc, ha]
      exact .deactivated
    | false => exact step_withLink hc rfl ha.symm
  | confirmed hc hp hr =>
    rw [events_sentFrames]
    exact step_withLink hc rfl rfl
  | sent hc hp hs hn hr =>
    rw [← List.singleton_append, events_append, events_sentFrames]
    exact step_withLink hc rfl rfl
  | unconfirmed hc hp hr s =>
    rw [events_letGo]
    exact step_letGo hc s
  | unsent hc hp hs hn s =>
    rw [← List.singleton_append, events_append, events_letGo]
    exact step_letGo hc s
  | ignored hc | restarted hc | active hc | inactive hc | rested hc => exact step_withLink hc rfl rfl

end StationConnection

namespace Outstation

/-! ## Activation -/

section

variable {o o' : Outstation} {now : Millis} {id j : Nat} {c c' : StationConnection}
  {effects : List StationEffect} {pushed : List Asdu}

/-- The connections that an activation displaces: the active one, if there is one. -/
theorem Sound.displaced (h : o.Sound) (hn : ∀ c ∈ o.connections, c.id = id → c.active = false) :
    o.registered.filter (fun c => c.id != id && c.active) = o.activeConnection.toList := by
  have hm : ∀ c, c ∈ o.registered.filter (fun c => c.id != id && c.active) ↔
      o.activeConnection = some c := by
    intro c
    rw [h.activeConnection_eq_some_iff, List.mem_filter, Bool.and_eq_true, bne_iff_ne]
    constructor
    · rintro ⟨hr, -, ha⟩
      exact ⟨List.mem_of_mem_filter hr, ha⟩
    · rintro ⟨hc, ha⟩
      obtain ⟨link, hl⟩ := h.serving c hc ha
      refine ⟨List.mem_filter.2 ⟨hc, StationConnection.isRegistered_of_link hl⟩, fun hi => ?_, ha⟩
      rw [hn c hc hi] at ha
      cases ha
  cases hc : o.activeConnection with
  | none =>
    refine List.eq_nil_iff_forall_not_mem.2 fun c hf => ?_
    rw [hm, hc] at hf
    cases hf
  | some c =>
    -- ids are distinct, so the active connection is there once
    have hnodup : (o.registered.filter fun c => c.id != id && c.active).Nodup :=
      (List.Nodup.of_map _ h.distinct).filter _ |>.filter _
    refine (List.perm_singleton.1 ((List.perm_ext_iff_of_nodup hnodup (List.nodup_singleton c)).2 ?_))
    intro d
    rw [hm, hc, List.mem_singleton, Option.some_inj, eq_comm]

/-- The active connection hears that it is no longer, and then the other one that it is. -/
theorem Sound.activate_effects (h : o.Sound) (hn : ∀ c ∈ o.connections, c.id = id → c.active = false) :
    (o.activate id).2 =
      o.activeConnection.toList.map (fun c => .event c.id .deactivated) ++ [.event id .activated] := by
  rw [Outstation.activate, h.displaced hn]

theorem Sound.activeConnection_put (h : o.Sound) (hc : o.connection? id = some c) (hk : c.Keeps c')
    (ha : c.active = false) : (o.put c').activeConnection = o.activeConnection := by
  refine Option.ext fun d => ?_
  rw [(h.put hc hk).activeConnection_eq_some_iff, h.activeConnection_eq_some_iff,
    mem_put ⟨c, mem_of_connection? hc, hk.id.symm⟩]
  have hc' : c'.active ≠ true := fun ha' => by rw [hk.active ha'] at ha; cases ha
  constructor
  · rintro ⟨rfl | ⟨hd, -⟩, hda⟩
    · exact absurd hda hc'
    · exact ⟨hd, hda⟩
  · rintro ⟨hd, hda⟩
    refine ⟨.inr ⟨hd, fun hi => ?_⟩, hda⟩
    rw [h.distinct.eq_of_id_eq hd (mem_of_connection? hc) (hi.trans hk.id), ha] at hda
    cases hda

/-- A task that starts the data transfer reports to the connection that had it, and then to its own. -/
theorem Sound.activated_effects (h : o.Sound) (hc : o.connection? c.id = some c) {link link' : StationLink}
    (hl : c.phase = .serving link) (ha : c.active = false) :
    ((o.put (c.withLink link')).activate c.id).2 =
      o.activeConnection.toList.map (fun c => .event c.id .deactivated) ++ [.event c.id .activated] := by
  have hk : c.Keeps (c.withLink link') :=
    .withLink rfl (fun h => h) (StationConnection.isRegistered_of_link hl) rfl
  rw [(h.put hc hk).activate_effects fun d hd hi => ?_, h.activeConnection_put hc hk ha]
  obtain rfl | ⟨-, hne⟩ := (mem_put (c := c.withLink link') ⟨c, mem_of_connection? hc, rfl⟩).1 hd
  · exact ha
  · exact absurd hi hne

/-- An activation changes no other connection that is not active. -/
theorem connection?_activate_of_inactive (hj : j ≠ id)
    (hn : ∀ c, o.connection? id = some c → c.active = false) :
    (o.activate j).1.connection? id = o.connection? id := by
  rw [connection?_activate]
  cases hc : o.connection? id with
  | none => rfl
  | some c =>
    have hi : c.id ≠ j := id_of_connection? hc ▸ hj.symm
    exact congrArg some (afterActivation_of_inactive hi (hn c hc))

theorem Sound.stage_activate (h : o.Sound) (hj : j ≠ id)
    (hn : ∀ c ∈ o.connections, c.id = j → c.active = false) :
    (stage (o.connection? id)).Step (events id (o.activate j).2)
      (stage ((o.activate j).1.connection? id)) := by
  have hown : events id [.event j .activated] = [] :=
    events_of_subject (List.forall_mem_singleton.2 fun hs => hj (Option.some.inj hs))
  rw [h.activate_effects hn, events_append, hown, List.append_nil]
  cases ha : o.activeConnection with
  | none =>
    rw [connection?_activate_of_inactive hj fun c hc =>
      h.activeConnection_eq_none_iff.1 ha c (mem_of_connection? hc)]
    exact .silent
  | some d =>
    obtain ⟨hd, hda⟩ := h.activeConnection_eq_some_iff.1 ha
    rw [Option.toList_some, List.map_singleton]
    by_cases hi : d.id = id
    · subst hi
      obtain ⟨link, hl⟩ := h.serving d hd hda
      have hafter : afterActivation j d = { d with active := false } := by
        rw [afterActivation, if_neg hj.symm, if_pos (StationConnection.isRegistered_of_link hl)]
      rw [connection?_activate, (connection?_eq_some_iff h.distinct).2 ⟨hd, rfl⟩, Option.map_some,
        hafter, events_own, stage_serving hl, hda, stage_serving (c := { d with active := false }) hl]
      exact .deactivated
    · have hother : events id [.event d.id .deactivated] = [] :=
        events_of_subject (List.forall_mem_singleton.2 fun hs => hi (Option.some.inj hs))
      rw [hother, connection?_activate_of_inactive hj fun c hc => Bool.eq_false_iff.2 fun hca => hi ?_]
      · exact .silent
      · rw [h.single d hd c (mem_of_connection? hc) hda hca, id_of_connection? hc]

end

/-! ## Changes -/

section

variable {o o' : Outstation} {now : Millis} {id j : Nat} {c c' : StationConnection}
  {effects : List StationEffect} {pushed : List Asdu}

theorem stage_put {queue : OutboundQueue} {woken : List Nat} (hc : o.connection? j = some c)
    (hi : c'.id = c.id) (hs : ∀ e ∈ effects, e.subject = some c.id)
    (h : (stage (some c)).Step (events c.id effects) (stage (some c'))) :
    (stage (o.connection? id)).Step (events id effects)
      (stage (({ o with queue, woken }.put c').connection? id)) := by
  obtain rfl := id_of_connection? hc
  by_cases hid : c.id = id
  · subst hid
    have hput : ({ o with queue, woken }.put c').connection? c.id = some c' := connection?_put hc hi
    rw [hc, hput]
    exact h
  · have hput : ({ o with queue, woken }.put c').connection? id = o.connection? id :=
      connection?_put_of_ne (hi ▸ hid)
    rw [hput, events_of_subject fun e he hs' => hid (Option.some.inj ((hs e he).symm.trans hs'))]
    exact .silent

/-- A task that starts the data transfer. -/
theorem Sound.stage_activated (h : o.Sound) (hc : o.connection? c.id = some c) {link : StationLink}
    (hl : c.phase = .serving link) (ha : c.active = false) (id : Nat) :
    let put := o.put (c.withLink { link with point := .confirming .startCon })
    (stage (o.connection? id)).Step (events id (put.activate c.id).2)
      (stage ((put.activate c.id).1.connection? id)) := by
  intro put
  have hput : put.connection? c.id = some (c.withLink { link with point := .confirming .startCon }) :=
    connection?_put hc rfl
  by_cases hid : c.id = id
  · subst hid
    have hothers : events c.id (o.activeConnection.toList.map fun d => .event d.id .deactivated) = [] := by
      refine events_of_subject (List.forall_mem_map.2 fun d hd hs => ?_)
      obtain ⟨hm, hda⟩ := h.activeConnection_eq_some_iff.1 (Option.mem_toList.1 hd)
      rw [h.distinct.eq_of_id_eq hm (mem_of_connection? hc) (Option.some.inj hs), ha] at hda
      cases hda
    have hown : afterActivation c.id (c.withLink { link with point := .confirming .startCon }) =
        { c.withLink { link with point := .confirming .startCon } with active := true } := if_pos rfl
    rw [h.activated_effects hc hl ha, events_append, hothers, List.nil_append, events_own,
      connection?_activate, hput, Option.map_some, hown, hc, stage_serving hl, ha]
    exact .activated
  · have hk : c.Keeps (c.withLink { link with point := .confirming .startCon }) :=
      .withLink rfl (fun h => h) (StationConnection.isRegistered_of_link hl) rfl
    have hsame : put.connection? id = o.connection? id := connection?_put_of_ne hid
    rw [← hsame]
    refine (h.put hc hk).stage_activate hid fun d hd hi => ?_
    rw [Option.some.inj (((connection?_eq_some_iff (h.put hc hk).distinct).2 ⟨hd, hi⟩).symm.trans hput)]
    exact ha

/-- Every change takes every connection from one stage to another. -/
theorem Change.stage (h : o.Sound) (hc : Change o now pushed effects o') (id : Nat) :
    (stage (o.connection? id)).Step (events id effects) (stage (o'.connection? id)) := by
  cases hc with
  | begins hc hb =>
    exact stage_put hc hb.keeps.id hb.subject (hb.stage (h.serving _ (mem_of_connection? hc)))
  | proceeds hc hp => exact stage_put hc hp.keeps.id hp.subject hp.stage
  | activated hc hl hp ha =>
    obtain rfl := id_of_connection? hc
    exact h.stage_activated hc hl ha id
  | @woke j c hi hc =>
    refine stage_put hc (c.id_ask _) (List.forall_mem_nil _) ?_
    rw [stage_ask]
    exact .silent
  | @admitted asked ha hl peer deadline =>
    have hn : events id asked = [] := by obtain rfl | rfl := ha <;> rfl
    have hs : stage (connection? { o with
        nextId := o.nextId + 1
        connections := o.connections ++ [{ id := o.nextId, peer, phase := .securing deadline }] } id) =
        stage (o.connection? id) := by
      simp only [connection?, List.find?_append]
      cases o.connections.find? (·.id == id) with
      | some c => rfl
      | none =>
        rw [Option.none_or, List.find?_singleton]
        split <;> rfl
    rw [events_append, hn, hs]
    exact .silent
  | pushed asdu =>
    have hn : events id (o.push asdu).2 = [] := by
      simp [events, push, List.filterMap_map]
    rw [hn]
    exact .silent
  | _ => exact .silent

/-- A change of a single connection does not make it the active one. -/
theorem activated_notMem (hk : c.Keeps c') (hs : c.active = true → ∃ link, c.phase = .serving link)
    (h : (stage (some c)).Step (events c.id effects) (stage (some c'))) :
    .event c.id .activated ∉ effects := by
  intro hm
  have hm : .activated ∈ events c.id effects := List.mem_filterMap.2 ⟨_, hm, if_pos rfl⟩
  obtain ⟨hb, ha⟩ := h.of_activated_mem hm
  have hc : c.active = true := hk.active (active_of_stage ha)
  obtain ⟨link, hl⟩ := hs hc
  rw [stage_serving hl, hc] at hb
  cases hb

/-- An activation is reported to the connection that was active before, and then to the one that is. -/
theorem Change.activated_effects (h : o.Sound) (hc : Change o now pushed effects o')
    (hm : .event id .activated ∈ effects) :
    effects = o.activeConnection.toList.map (fun c => .event c.id .deactivated) ++ [.event id .activated] ∧
      (∀ c, o.activeConnection = some c → c.id ≠ id) ∧
      ∃ c, o'.activeConnection = some c ∧ c.id = id := by
  have hsound := h.change hc
  cases hc with
  | begins hc hb =>
    obtain rfl := Option.some.inj (hb.subject _ hm)
    have hs := h.serving _ (mem_of_connection? hc)
    exact absurd hm (activated_notMem hb.keeps hs (hb.stage hs))
  | proceeds hc hp =>
    obtain rfl := Option.some.inj (hp.subject _ hm)
    exact absurd hm (activated_notMem hp.keeps (h.serving _ (mem_of_connection? hc)) hp.stage)
  | @activated j c link hc hl hp ha =>
    obtain rfl := id_of_connection? hc
    have he : ((o.put (c.withLink { link with point := .confirming .startCon })).activate c.id).2 = _ :=
      h.activated_effects hc hl ha
    have hi : id = c.id := by
      rw [he, List.mem_append, List.mem_singleton] at hm
      rcases hm with hm | hm
      · obtain ⟨d, -, hd⟩ := List.mem_map.1 hm
        cases hd
      · cases hm
        rfl
    subst hi
    refine ⟨he, fun d hd hi => ?_, ?_⟩
    · obtain ⟨hm, hda⟩ := h.activeConnection_eq_some_iff.1 hd
      rw [h.distinct.eq_of_id_eq hm (mem_of_connection? hc) hi, ha] at hda
      cases hda
    · have hput : (o.put (c.withLink { link with point := .confirming .startCon })).connection? c.id =
          some (c.withLink { link with point := .confirming .startCon }) := connection?_put hc rfl
      have hown : afterActivation c.id (c.withLink { link with point := .confirming .startCon }) =
          { c.withLink { link with point := .confirming .startCon } with active := true } := if_pos rfl
      have hf := connection?_activate (o.put (c.withLink { link with point := .confirming .startCon }))
        c.id c.id
      rw [hput, Option.map_some, hown] at hf
      exact ⟨_, hsound.activeConnection_eq_some_iff.2 ⟨mem_of_connection? hf, rfl⟩, rfl⟩
  | admitted ha => obtain rfl | rfl := ha <;> simp at hm
  | pushed asdu =>
    obtain ⟨_, -, he⟩ := List.mem_map.1 hm
    cases he
  | _ => simp at hm

end

/-! ## Runs -/

section

variable {o : Outstation} {id : Nat} {effects : List StationEffect}

/-- What was reported of a connection spells the words of its stage. -/
theorem mem_words_interleave (h : o.Sound) (hw : events id effects ∈ (stage (o.connection? id)).words.matches')
    (moves : List (Millis × Move)) :
    let step := o.interleave moves
    events id (effects ++ step.2) ∈ (stage (step.1.connection? id)).words.matches' := by
  refine (history_induction (P := fun _ o' more => o'.Sound ∧
      events id (effects ++ more) ∈ (stage (o'.connection? id)).words.matches') ⟨h, ?_⟩
    (fun _ o' more m ⟨ho, hw⟩ => ?_) moves).2
  · rwa [List.append_nil]
  · have hc := change_move o' m.1 m.2
    refine ⟨ho.change hc, ?_⟩
    rw [← List.append_assoc, events_append]
    exact (hc.stage ho id).mem_words hw

/-! ## The end of an outstation -/

theorem drain_eq_interleave (id : Nat) (now : Millis) (o : Outstation) :
    ∃ moves, drain id now o = o.interleave moves := by
  have hi (n : Nat) (o : Outstation) : iterate (·.apply now (.command id)) n o =
      o.run (List.replicate n (now, .whole (.command id))) := by
    induction n generalizing o with
    | zero => rfl
    | succ n ih =>
      rw [iterate, funext ih]
      rfl
  obtain ⟨moves, hm, -⟩ := run_eq_interleave o _
  exact ⟨moves, (hi _ o).trans hm⟩

theorem drainAll_eq_interleave (o : Outstation) (now : Millis) :
    ∃ moves, o.drainAll now = o.interleave moves := by
  have hf (cs : List StationConnection) (moves : List (Millis × Move)) :
      ∃ moves', cs.foldl (fun step c => andThen step (drain c.id now)) (o.interleave moves) =
        o.interleave moves' := by
    induction cs generalizing moves with
    | nil => exact ⟨moves, rfl⟩
    | cons c cs ih =>
      obtain ⟨more, hm⟩ := drain_eq_interleave c.id now (o.interleave moves).1
      have hd : andThen (o.interleave moves) (drain c.id now) = o.interleave (moves ++ more) := by
        rw [interleave_append, andThen, andThen, hm]
      rw [List.foldl_cons, hd]
      exact ih _
  exact hf o.connections []

/-- The outstation when it has stopped to listen and has asked every connection to close. -/
def closing (o : Outstation) : Outstation :=
  { o with running := false, connections := o.connections.map StationConnection.close }

theorem connection?_closing (o : Outstation) (id : Nat) :
    o.closing.connection? id = (o.connection? id).map StationConnection.close := by
  have hf : ((·.id == id) ∘ StationConnection.close : StationConnection → Bool) = (·.id == id) :=
    funext fun c => by rw [Function.comp_apply, StationConnection.close, c.id_ask]
  rw [connection?, closing, List.find?_map, hf]
  rfl

theorem stage_closing (o : Outstation) (id : Nat) :
    stage (o.closing.connection? id) = stage (o.connection? id) := by
  rw [connection?_closing]
  cases o.connection? id with
  | none => rfl
  | some c => exact stage_ask c .close

theorem Sound.closing (h : o.Sound) : o.closing.Sound := by
  have hid (c : StationConnection) : c.close.id = c.id := c.id_ask .close
  have hactive (c : StationConnection) : c.close.active = c.active := c.active_ask .close
  have hphase (c : StationConnection) : c.close.phase = c.phase := c.phase_ask .close
  refine ⟨?_, ?_, ?_, ?_, ?_⟩
  · have hmap : o.closing.connections.map (·.id) = o.connections.map (·.id) := by
      rw [Outstation.closing, List.map_map]
      exact List.map_congr_left fun c _ => hid c
    rw [Distinct, hmap]
    exact h.distinct
  · refine List.forall_mem_map.2 fun c hc => ?_
    rw [hid]
    exact h.lt_nextId c hc
  · refine List.forall_mem_map.2 fun c hc => ?_
    rw [hactive, hphase]
    exact h.serving c hc
  · refine List.forall_mem_map.2 fun c hc => List.forall_mem_map.2 fun d hd hca hda => ?_
    rw [hactive] at hca hda
    rw [h.single c hc d hd hca hda]
  · have hopen : o.closing.openConnections = o.openConnections := by
      simp only [openConnections, registered, Outstation.closing, List.filter_map, List.length_map]
      congr 1
      refine List.filter_congr fun c _ => ?_
      rw [Function.comp_apply, StationConnection.isRegistered, hphase]
      rfl
    rw [hopen]
    exact h.limit

/-- An outstation that stops asks every connection to close, and then their tasks take their commands. -/
theorem stop_eq_interleave (o : Outstation) (now : Millis) :
    ∃ moves, o.stop now = o.closing.interleave moves :=
  drainAll_eq_interleave o.closing now

end

/-! ## Main statement -/

/-- **The events of a connection form a regular language.** Whatever the tasks, the masters and the
application do, in any order: what was reported of a connection can be continued to a whole life. While its
stream is in use it was opened and not closed, and it is active if and only if the last report says so; when it
is over, its life is whole or never began. An activation is reported to the connection that was active before,
exactly once, and then to the new one. It stays so when the outstation stops. -/
theorem connection_lifecycle (config : OutstationConfig) (handlers : Handlers)
    (moves : List (Millis × Move)) (id : Nat) :
    let step := (create config handlers).interleave moves
    let o := step.1
    Lives (o.connection? id) (events id step.2) ∧
      (∀ now m, let next := o.move now m
        .event id .activated ∈ next.2 →
          next.2 = o.activeConnection.toList.map (fun c => .event c.id .deactivated)
            ++ [.event id .activated] ∧
          (∀ c, o.activeConnection = some c → c.id ≠ id) ∧
          ∃ c, next.1.activeConnection = some c ∧ c.id = id) ∧
      ∀ now, let last := o.stop now
        Lives (last.1.connection? id) (events id (step.2 ++ last.2)) := by
  intro step o
  have h : o.Sound := sound_interleave config handlers moves
  have hw : events id step.2 ∈ (stage (o.connection? id)).words.matches' := by
    have hnil : events id [] ∈ (stage ((create config handlers).connection? id)).words.matches' := rfl
    exact mem_words_interleave (sound_create config handlers) hnil moves
  refine ⟨lives_of_mem_words hw, fun now m hm => (change_move o now m).activated_effects h hm,
    fun now => ?_⟩
  obtain ⟨closings, hc⟩ := stop_eq_interleave o now
  rw [← stage_closing] at hw
  dsimp only
  rw [hc]
  exact lives_of_mem_words (mem_words_interleave h.closing hw closings)

/-- Two masters: the second takes the data transfer over from the first. -/
theorem connection_lifecycle_two :
    let moves : List (Millis × Move) :=
      [(0, .begin (.accept "first" none)), (0, .begin (.accept "second" none)),
        (0, .begin (.handshake 1 true)), (0, .proceed 1),
        (0, .begin (.handshake 2 true)), (0, .proceed 2),
        (1, .begin (.arrive 1 [0x68, 4, 7, 0, 0, 0])), (1, .begin (.readable 1)), (1, .proceed 1),
        (1, .proceed 1), (2, .begin (.arrive 2 [0x68, 4, 7, 0, 0, 0])), (2, .begin (.readable 2))]
    let o := ((create {} {}).interleave moves).1
    .event 2 .activated ∈ (o.move 2 (.proceed 2)).2 ∧
      (o.move 2 (.proceed 2)).2 =
        o.activeConnection.toList.map (fun c => .event c.id .deactivated) ++ [.event 2 .activated] := by
  intro moves o
  have hm : .event 2 .activated ∈ (o.move 2 (.proceed 2)).2 := by
    have he : (o.move 2 (.proceed 2)).2 = [.event 1 .deactivated, .event 2 .activated] := rfl
    rw [he]
    exact List.mem_cons_of_mem _ (List.mem_singleton_self _)
  exact ⟨hm, ((connection_lifecycle {} {} moves 2).2.1 2 (.proceed 2) hm).1⟩

end Outstation

end Telecontrol
