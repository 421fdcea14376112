import Telecontrol.Proofs.Outstation.Active

/-!
# What a move is for one connection

The moves of an outstation as one of its connections sees them. What is to hold of a connection and of
what was seen of it can be proved without a look at the other ones.

* `StationEffect.subject`: the connection that an effect is about.
* `Outstation.View`: what a change is for the connection with an id. `Outstation.Change.view`: every change
  is that for every id.
* `Outstation.view_induction`: what holds of a connection at the start and is kept by every view of a
  change, holds in every interleaving.
-/

namespace Telecontrol

/-- The connection that an effect is about. -/
def StationEffect.subject : StationEffect → Option Nat
  | .asked | .dropped _ => none
  | .admitted id | .event id _ | .sent id _ | .received id _ | .called id .. | .accepted id _
  | .replied id _ | .hungUp id => some id
  | .taken c .. => some c.id

namespace StationConnection

open Outstation (sentFrames)

variable {o : Outstation} {now : Millis} {c c' : StationConnection} {effects : List StationEffect}

theorem subject_sentFrames {α : Type} (id : Nat) (outcome : Session.Outcome α) :
    ∀ e ∈ sentFrames id outcome, e.subject = some id :=
  List.forall_mem_map.2 fun _ _ => rfl

theorem Begins.subject (h : c.Begins o now effects c') : ∀ e ∈ effects, e.subject = some c.id := by
  cases h with
  | ended hc hp he s =>
    cases he <;> simp [StationEffect.subject]
  | frame => exact List.forall_mem_cons.2 ⟨rfl, subject_sentFrames _ _⟩
  | timers => exact subject_sentFrames _ _
  | _ => simp [StationEffect.subject]

theorem Proceeds.subject {queue : OutboundQueue} (h : c.Proceeds o now effects c' queue) :
    ∀ e ∈ effects, e.subject = some c.id := by
  cases h with
  | dispatched hc hp ha =>
    refine List.forall_mem_append.2 ⟨fun e he => ?_, List.forall_mem_map.2 fun _ _ => rfl⟩
    obtain ⟨_, rfl⟩ | ⟨_, _, rfl⟩ := mem_performCalls ha (isRegistered_of_link hc) he
    · rfl
    · rfl
  | stopped => split <;> simp [StationEffect.subject]
  | confirmed => exact subject_sentFrames _ _
  | sent => exact List.forall_mem_cons.2 ⟨rfl, subject_sentFrames _ _⟩
  | _ => simp [StationEffect.subject]

end StationConnection

namespace Outstation

/-- What a change of the outstation `o` is for the connection with an id: what was found under the id
before, what was seen, and what is found then. -/
inductive View (o : Outstation) (now : Millis) (id : Nat) :
    Option StationConnection → List StationEffect → Option StationConnection → Prop where
  /-- It is about something else. -/
  | other {found : Option StationConnection} {effects : List StationEffect}
      (he : ∀ e ∈ effects, e.subject ≠ some id) : View o now id found effects found
  | admitted {asked : List StationEffect} (ha : asked = [] ∨ asked = [.asked]) (peer : String)
      (deadline : Millis) :
      View o now id none (asked ++ [.admitted id]) (some { id, peer, phase := .securing deadline })
  | begins {c c' : StationConnection} {effects : List StationEffect} (hi : c.id = id)
      (hb : c.Begins o now effects c') : View o now id (some c) effects (some c')
  | proceeds {c c' : StationConnection} {effects : List StationEffect} {queue : OutboundQueue}
      (hi : c.id = id) (hp : c.Proceeds o now effects c' queue) : View o now id (some c) effects (some c')
  /-- It becomes the active one. -/
  | activated {c : StationConnection} {link : StationLink} {displaced : List StationEffect}
      (hi : c.id = id) (hl : c.phase = .serving link) (hp : link.point = .acting (.control .startAct))
      (ha : c.active = false) (he : ∀ e ∈ displaced, e.subject ≠ some id) :
      View o now id (some c) (displaced ++ [.event id .activated])
        (some { c.withLink { link with point := .confirming .startCon } with active := true })
  /-- Another one becomes the active one in its place. -/
  | displaced {c : StationConnection} {effects : List StationEffect} (hi : c.id = id) (ha : c.active = true)
      (hm : .event id .deactivated ∈ effects)
      (he : ∀ e ∈ effects, e.subject = some id → e = .event id .deactivated) :
      View o now id (some c) effects (some { c with active := false })

variable {o o' : Outstation} {now : Millis} {id j : Nat} {c c' : StationConnection}
  {effects : List StationEffect} {pushed : List Asdu}

theorem view_put {queue : OutboundQueue} {woken : List Nat} (hc : o.connection? j = some c)
    (hi : c'.id = c.id) (hs : ∀ e ∈ effects, e.subject = some c.id)
    (h : c.id = id → View o now id (some c) effects (some c')) :
    View o now id (o.connection? id) effects (({ o with queue, woken }.put c').connection? id) := by
  obtain rfl := id_of_connection? hc
  by_cases hid : c.id = id
  · subst hid
    have hput : ({ o with queue, woken }.put c').connection? c.id = some c' := connection?_put hc hi
    rw [hc, hput]
    exact h rfl
  · have hput : ({ o with queue, woken }.put c').connection? id = o.connection? id :=
      connection?_put_of_ne (hi ▸ hid)
    rw [hput]
    refine .other fun e he => ?_
    rw [hs e he]
    exact fun h => hid (Option.some.inj h)

/-- The connections that lose the data transfer to another one hear of it. -/
theorem mem_displaced {e : StationEffect} :
    e ∈ (o.activate id).2 ↔ e = .event id .activated ∨
      ∃ c ∈ o.registered, c.id ≠ id ∧ c.active = true ∧ e = .event c.id .deactivated := by
  simp only [activate, List.mem_append, List.mem_map, List.mem_filter, List.mem_singleton,
    Bool.and_eq_true, bne_iff_ne]
  rw [or_comm]
  refine or_congr_right (exists_congr fun c => ?_)
  constructor
  · rintro ⟨⟨hr, hi, ha⟩, rfl⟩
    exact ⟨hr, hi, ha, rfl⟩
  · rintro ⟨hr, hi, ha, rfl⟩
    exact ⟨⟨hr, hi, ha⟩, rfl⟩

theorem afterActivation_of_inactive (hi : c.id ≠ id) (ha : c.active = false) :
    afterActivation id c = c := by
  rw [afterActivation, if_neg hi]
  split
  · rw [← ha]
  · rfl

/-- What an activation is for another connection. -/
theorem view_activate (h : o.Sound) (hj : j ≠ id) :
    View o' now id (o.connection? id) (o.activate j).2 ((o.activate j).1.connection? id) := by
  have hown : ∀ e ∈ (o.activate j).2, e.subject = some id →
      e = .event id .deactivated ∧ ∃ c ∈ o.connections, c.id = id ∧ c.active = true := by
    intro e he hs
    obtain rfl | ⟨d, hd, -, ha, rfl⟩ := mem_displaced.1 he
    · exact absurd (Option.some.inj hs) hj
    · obtain rfl : d.id = id := Option.some.inj hs
      exact ⟨rfl, d, List.mem_of_mem_filter hd, rfl, ha⟩
  rw [connection?_activate]
  cases hc : o.connection? id with
  | none =>
    refine .other fun e he hs => ?_
    obtain ⟨-, c, hm, hi, -⟩ := hown e he hs
    rw [(connection?_eq_some_iff h.distinct).2 ⟨hm, hi⟩] at hc
    cases hc
  | some c =>
    have hi : c.id = id := id_of_connection? hc
    rw [Option.map_some]
    cases ha : c.active with
    | false =>
      rw [afterActivation_of_inactive (hi ▸ hj.symm) ha]
      refine .other fun e he hs => ?_
      obtain ⟨-, d, hm, hi, hd⟩ := hown e he hs
      rw [(connection?_eq_some_iff h.distinct).2 ⟨hm, hi⟩] at hc
      rw [Option.some.inj hc, ha] at hd
      cases hd
    | true =>
      obtain ⟨link, hl⟩ := h.serving c (mem_of_connection? hc) ha
      have hr := StationConnection.isRegistered_of_link hl
      rw [afterActivation, if_neg (hi ▸ hj.symm), if_pos hr]
      refine .displaced hi ha (mem_displaced.2 (.inr ?_)) fun e he hs => (hown e he hs).1
      exact ⟨c, List.mem_filter.2 ⟨mem_of_connection? hc, hr⟩, hi ▸ hj.symm, ha, by rw [hi]⟩

theorem view_activated (h : o.Sound) (hc : o.connection? c.id = some c) {link : StationLink}
    (hl : c.phase = .serving link) (hp : link.point = .acting (.control .startAct))
    (ha : c.active = false) (id : Nat) :
    let put := o.put (c.withLink { link with point := .confirming .startCon })
    View o now id (o.connection? id) (put.activate c.id).2 ((put.activate c.id).1.connection? id) := by
  intro put
  by_cases hid : c.id = id
  · subst hid
    have hput : put.connection? c.id = some (c.withLink { link with point := .confirming .startCon }) :=
      connection?_put hc rfl
    have hown : afterActivation c.id (c.withLink { link with point := .confirming .startCon }) =
        { c.withLink { link with point := .confirming .startCon } with active := true } := if_pos rfl
    rw [hc, connection?_activate, hput, Option.map_some, hown]
    refine .activated rfl hl hp ha (List.forall_mem_map.2 fun d hd => ?_)
    have hd := (List.mem_filter.1 hd).2
    rw [Bool.and_eq_true, bne_iff_ne] at hd
    exact fun hs => hd.1 (Option.some.inj hs)
  · have hk : c.Keeps (c.withLink { link with point := .confirming .startCon }) :=
      .withLink rfl (fun h => h) (StationConnection.isRegistered_of_link hl) rfl
    have hput : put.connection? id = o.connection? id := connection?_put_of_ne hid
    rw [← hput]
    exact view_activate (h.put hc hk) hid

theorem view_admitted (h : o.Sound) {asked : List StationEffect} (ha : asked = [] ∨ asked = [.asked])
    (peer : String) (deadline : Millis) (id : Nat) :
    let c : StationConnection := { id := o.nextId, peer, phase := .securing deadline }
    View o now id (o.connection? id) (asked ++ [.admitted o.nextId])
      (connection? { o with nextId := o.nextId + 1, connections := o.connections ++ [c] } id) := by
  intro c
  simp only [connection?, List.find?_append]
  by_cases hid : o.nextId = id
  · subst hid
    have hn : o.connections.find? (·.id == o.nextId) = none := by
      refine List.find?_eq_none.2 fun d hd => ?_
      rw [beq_iff_eq]
      exact Nat.ne_of_lt (h.lt_nextId d hd)
    have hf : [c].find? (·.id == o.nextId) = some c :=
      List.find?_cons_of_pos (beq_self_eq_true o.nextId)
    rw [hn, Option.none_or, hf]
    exact .admitted ha peer deadline
  · have hf : [c].find? (·.id == id) = none := by
      rw [List.find?_cons_of_neg (by rw [beq_iff_eq]; exact hid), List.find?_nil]
    rw [hf, Option.or_none]
    refine .other (List.forall_mem_append.2 ⟨?_, ?_⟩)
    · obtain rfl | rfl := ha
      · exact List.forall_mem_nil _
      · exact List.forall_mem_singleton.2 fun hs => by cases hs
    · exact List.forall_mem_singleton.2 fun hs => hid (Option.some.inj hs)

theorem Change.view (h : o.Sound) (hc : Change o now pushed effects o') (id : Nat) :
    View o now id (o.connection? id) effects (o'.connection? id) := by
  cases hc with
  | begins hc hb => exact view_put hc hb.keeps.id hb.subject fun hi => .begins hi hb
  | proceeds hc hp => exact view_put hc hp.keeps.id hp.subject fun hi => .proceeds hi hp
  | activated hc hl hp ha =>
    obtain rfl := id_of_connection? hc
    exact view_activated h hc hl hp ha id
  | @woke j c hi hc =>
    exact view_put hc (c.id_ask _) (List.forall_mem_nil _) fun hi => .begins hi (.asked (.inl rfl))
  | admitted ha hl peer deadline => exact view_admitted h ha peer deadline id
  | pushed asdu =>
    refine .other fun e he => ?_
    obtain ⟨_, -, rfl⟩ := List.mem_map.1 he
    exact fun hs => by cases hs
  | refused => exact .other (List.forall_mem_singleton.2 fun hs => by cases hs)
  | _ => exact .other (List.forall_mem_nil _)

/-- Handlers are called for the active connection only, in one go. -/
theorem View.dispatched {found found' : Option StationConnection} (hv : View o now id found effects found')
    {asdu : Asdu} {call : HandlerCall} {results : List (Except Fault Unit)}
    (hm : .called id asdu call results ∈ effects) :
    ∃ (c : StationConnection) (replies : List Asdu), found = some c ∧ c.id = id ∧ c.active = true ∧
      c.isRegistered = true ∧ effects =
        (performCalls c asdu (o.handlers.dispatch asdu).calls).2 ++ replies.map (.replied c.id) := by
  cases hv with
  | other he => exact absurd rfl (he _ hm)
  | displaced hi ha hd he => cases he _ hm rfl
  | admitted ha => obtain rfl | rfl := ha <;> simp at hm
  | activated hi hl hp ha he =>
    rcases List.mem_append.1 hm with hm | hm
    · exact absurd rfl (he _ hm)
    · cases List.mem_singleton.1 hm
  | begins hi hb =>
    cases hb with
    | ended hc hp he s => cases he <;> simp at hm
    | frame | timers => simp [sentFrames] at hm
    | _ => simp at hm
  | @proceeds c _ _ _ hi hp =>
    cases hp with
    | @dispatched link octets a hc hp ha hd =>
      have hr := StationConnection.isRegistered_of_link hc
      rcases List.mem_append.1 hm with hm | hm
      · obtain ⟨_, hs⟩ | ⟨_, _, hs⟩ := StationConnection.mem_performCalls ha hr hm
        · cases hs
        · cases hs
          exact ⟨c, _, rfl, rfl, ha, hr, rfl⟩
      · obtain ⟨_, -, hs⟩ := List.mem_map.1 hm
        cases hs
    | confirmed | sent => simp [sentFrames] at hm
    | stopped => split at hm <;> simp at hm
    | _ => simp at hm

/-- A connection is not over. -/
def Open (found : Option StationConnection) : Prop := ∀ c, found = some c → c.isRegistered = true

/-- A connection that is not over was not over before. -/
theorem View.open {found found' : Option StationConnection} (hv : View o now id found effects found')
    (hr : Open found') : Open found := by
  rintro c rfl
  cases hv with
  | other => exact hr _ rfl
  | displaced => exact hr { c with active := false } rfl
  | begins hi hb => exact hb.keeps.registered (hr _ rfl)
  | proceeds hi hp => exact hp.keeps.registered (hr _ rfl)
  | activated hi hl => exact StationConnection.isRegistered_of_link hl

theorem view_move (config : OutstationConfig) (handlers : Handlers) (moves : List (Millis × Move))
    (m : Millis × Move) (id : Nat) :
    let o := ((create config handlers).interleave moves).1
    View o m.1 id (o.connection? id) (o.move m.1 m.2).2 ((o.move m.1 m.2).1.connection? id) :=
  (change_move _ m.1 m.2).view (sound_interleave config handlers moves) id

/-- What holds of a connection that there is not yet, and is kept by every view of a change, holds in every
interleaving. -/
theorem view_induction {P : List StationEffect → Option StationConnection → Prop} (id : Nat)
    (h₀ : P [] none)
    (hs : ∀ (o : Outstation) now effects found more found', P effects found →
      View o now id found more found' → P (effects ++ more) found')
    (config : OutstationConfig) (handlers : Handlers) (moves : List (Millis × Move)) :
    let step := (create config handlers).interleave moves
    P step.2 (step.1.connection? id) :=
  (history_induction (P := fun _ o effects => o.Sound ∧ P effects (o.connection? id))
    ⟨sound_create config handlers, h₀⟩ (fun _ o _ m ⟨ho, h⟩ =>
      ⟨ho.change (change_move o m.1 m.2), hs _ _ _ _ _ _ h ((change_move o m.1 m.2).view ho id)⟩)
    moves).2

end Outstation

end Telecontrol
