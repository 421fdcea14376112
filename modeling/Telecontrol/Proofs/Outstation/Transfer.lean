import Mathlib.Data.List.Infix
import Telecontrol.Proofs.Outstation.Confirming
import Telecontrol.Proofs.Outstation.Rest
import Telecontrol.Proofs.Window.Refinement

/-!
# The data transfer

The data transfer of an outstation as its masters see it: a connection sends I-frames only while the data
transfer is with it, and what comes in on another one is counted but not acted upon.

* `Outstation.Holds`: the data transfer is with a connection, as the reported events tell.
  `Outstation.told_interleave`: they tell the truth.
* `Outstation.held_interleave`: an I-frame is written for an ASDU that the task has just taken.
* `Outstation.sending_interleave`: a task that sends has found its connection active.
* `Outstation.Idle`: a connection without the data transfer. `Outstation.idle_interleave`: nothing is done
  for its master.
* `Outstation.data_transfer_gated`: the main statement.
-/

namespace Telecontrol

/-- What is seen of a connection while its task sends. -/
def StationEffect.OfSending : StationEffect → Prop
  | .taken _ _ _ | .accepted _ _ => True
  | .sent _ frame => frame.apci.isInformation = true
  | .event _ what => what = .deactivated
  | _ => False

namespace Outstation

/-- What was reported of the data transfer of a connection. -/
def transfers (id : Nat) (effects : List StationEffect) : List ConnectionEvent :=
  effects.filterMap fun
    | .event i event => if i = id ∧ event ≠ .opened then some event else none
    | _ => none

/-- The data transfer is with a connection: it was made the active one and has neither lost that role nor
been closed since. -/
def Holds (id : Nat) (effects : List StationEffect) : Prop :=
  (transfers id effects).getLast? = some .activated

/-! ## Who holds the data transfer -/

section

variable {o : Outstation} {now : Millis} {id : Nat} {c c' : StationConnection}
  {found found' : Option StationConnection} {effects more : List StationEffect}

theorem transfers_append (effects more : List StationEffect) :
    transfers id (effects ++ more) = transfers id effects ++ transfers id more :=
  List.filterMap_append

theorem transfers_of_subject (h : ∀ e ∈ more, e.subject ≠ some id) : transfers id more = [] := by
  refine List.filterMap_eq_nil_iff.2 fun e he => ?_
  cases e with
  | event i event => exact if_neg fun hi => h _ he (congrArg some hi.1)
  | _ => rfl

theorem transfers_sentFrames {α : Type} (i : Nat) (outcome : Session.Outcome α) :
    transfers id (sentFrames i outcome) = [] := by
  simp [transfers, sentFrames, List.filterMap_map]

theorem getLast?_transfers_letGo (id : Nat) (effects : List StationEffect) :
    (transfers id (effects ++ [.event id .closed, .hungUp id])).getLast? = some .closed := by
  have ht : transfers id [.event id .closed, .hungUp id] = [.closed] := by simp [transfers]
  rw [transfers_append, ht, List.getLast?_concat]

/-- The events tell whether a connection is active. -/
def Told (id : Nat) (effects : List StationEffect) (found : Option StationConnection) : Prop :=
  Holds id effects ↔ found.any (·.active) = true

theorem Told.silent (h : Told id effects found) (ht : transfers id more = [])
    (ha : found'.any (·.active) = found.any (·.active)) : Told id (effects ++ more) found' := by
  rw [Told, Holds, transfers_append, ht, List.append_nil, ha]
  exact h

theorem told_of_last {event : ConnectionEvent} (ht : (transfers id more).getLast? = some event)
    (ha : event = .activated ↔ found.any (·.active) = true) : Told id (effects ++ more) found := by
  rw [Told, Holds, transfers_append, List.getLast?_append, ht, Option.some_or, Option.some_inj]
  exact ha

theorem told_closed (hl : c'.active = false) (he : ∃ es, more = es ++ [.event id .closed, .hungUp id]) :
    Told id (effects ++ more) (some c') := by
  obtain ⟨es, rfl⟩ := he
  refine told_of_last (getLast?_transfers_letGo id es) (iff_of_false nofun ?_)
  rw [Option.any_some, hl]
  exact Bool.false_ne_true

theorem Told.begins (h : Told c.id effects (some c)) (hb : c.Begins o now more c') :
    Told c.id (effects ++ more) (some c') := by
  cases hb with
  | ended hc hp he s => exact told_closed rfl ⟨_, rfl⟩
  | frame => exact h.silent (transfers_sentFrames _ _) rfl
  | timers => exact h.silent (transfers_sentFrames _ _) rfl
  | asked => exact h.silent rfl (c.active_ask _)
  | secured => exact h.silent (by simp [transfers]) rfl
  | _ => exact h.silent rfl rfl

theorem Told.proceeds {queue : OutboundQueue} (h : Told c.id effects (some c))
    (hp : c.Proceeds o now more c' queue) : Told c.id (effects ++ more) (some c') := by
  cases hp with
  | @dispatched link octets asdu hc hp ha hd =>
    have hr := StationConnection.isRegistered_of_link hc
    refine h.silent (filterMap_dispatched ha hr (fun _ => rfl) (fun _ _ => rfl) fun _ => rfl) ?_
    rw [StationConnection.performCalls_of_active ha hr]
    rfl
  | stopped hc hp =>
    cases ha : c.active with
    | true =>
      have ht : (transfers c.id [.event c.id .deactivated]).getLast? = some .deactivated := by
        simp [transfers]
      exact told_of_last ht (iff_of_false nofun Bool.false_ne_true)
    | false => exact h.silent rfl ha.symm
  | confirmed => exact h.silent (transfers_sentFrames _ _) rfl
  | sent => exact h.silent (transfers_sentFrames _ _) rfl
  | unconfirmed => exact told_closed rfl ⟨[], rfl⟩
  | unsent => exact told_closed rfl ⟨[_], rfl⟩
  | _ => exact h.silent rfl rfl

theorem Told.view (h : Told id effects found) (hv : View o now id found more found') :
    Told id (effects ++ more) found' := by
  cases hv with
  | other he => exact h.silent (transfers_of_subject he) rfl
  | admitted ha peer deadline =>
    refine h.silent ?_ rfl
    obtain rfl | rfl := ha
    · rfl
    · rfl
  | begins hi hb =>
    subst hi
    exact h.begins hb
  | proceeds hi hp =>
    subst hi
    exact h.proceeds hp
  | activated hi hl hp ha he =>
    refine told_of_last ?_ (iff_of_true rfl rfl)
    rw [transfers_append, transfers_of_subject he]
    simp [transfers]
  | @displaced c _ hi ha hm he =>
    have hd : .deactivated ∈ transfers id more :=
      List.mem_filterMap.2 ⟨_, hm, if_pos ⟨rfl, nofun⟩⟩
    have hlast : (transfers id more).getLast? = some .deactivated := by
      rw [List.getLast?_eq_some_getLast (List.ne_nil_of_mem hd)]
      obtain ⟨e, hm, ht⟩ := List.mem_filterMap.1 (List.getLast_mem (List.ne_nil_of_mem hd))
      cases e with
      | event i event =>
        dsimp only at ht
        split at ht
        · rename_i hi
          cases he _ hm (congrArg some hi.1)
          exact ht.symm
        · cases ht
      | _ => cases ht
    exact told_of_last hlast (iff_of_false nofun Bool.false_ne_true)

theorem told_nil : Told id [] none := iff_of_false (fun h => by cases h) Bool.false_ne_true

theorem told_interleave (config : OutstationConfig) (handlers : Handlers)
    (moves : List (Millis × Move)) (id : Nat) :
    let step := (create config handlers).interleave moves
    Told id step.2 (step.1.connection? id) :=
  view_induction (P := fun effects found => Told id effects found) id told_nil
    (fun _ _ _ _ _ _ h hv => h.view hv) config handlers moves

/-- The events tell which connection is the active one. -/
theorem Sound.holds_iff (h : o.Sound) (ht : Told id effects (o.connection? id)) :
    Holds id effects ↔ ∃ c, o.activeConnection = some c ∧ c.id = id := by
  refine Iff.trans ht ⟨fun ha => ?_, ?_⟩
  · obtain ⟨c, hc, ha⟩ := (Option.any_eq_true _ _).1 ha
    exact ⟨c, h.activeConnection_eq_some_iff.2 ⟨mem_of_connection? hc, ha⟩, id_of_connection? hc⟩
  · rintro ⟨c, hc, rfl⟩
    obtain ⟨hm, ha⟩ := h.activeConnection_eq_some_iff.1 hc
    rw [(connection?_eq_some_iff h.distinct).2 ⟨hm, rfl⟩]
    exact ha

end

/-! ## I-frames and what they are sent for -/

section

variable {o : Outstation} {now : Millis} {id : Nat} {c c' : StationConnection} {link : StationLink}
  {found found' : Option StationConnection} {effects more : List StationEffect} {frame : Apdu}

theorem mem_frames : frame ∈ frames id effects ↔ .sent id frame ∈ effects := by
  refine List.mem_filterMap.trans ⟨?_, fun h => ⟨_, h, if_pos rfl⟩⟩
  rintro ⟨e, he, hf⟩
  cases e with
  | sent i f =>
    dsimp only at hf
    split at hf
    · cases hf
      rename_i hi
      rwa [← hi]
    · cases hf
  | _ => cases hf

theorem holds_taken (c : StationConnection) (source : Source) (asdu : Asdu) (h : Holds id effects) :
    Holds id (effects ++ [.taken c source asdu]) := by
  have ht : transfers id [.taken c source asdu] = [] := rfl
  rwa [Holds, transfers_append, ht, List.append_nil]

/-- Every I-frame of a connection was written for an ASDU that its task had just taken, and if the connection
was active then, the data transfer was with it. -/
def Held (id : Nat) (effects : List StationEffect) : Prop :=
  ∀ before frame after, effects = before ++ .sent id frame :: after → frame.apci.isInformation = true →
    ∃ earlier c source asdu, before = earlier ++ [.taken c source asdu] ∧ c.id = id ∧
      (c.active = true → Holds id before)

theorem Held.view (h : Held id effects) (ht : Told id effects found)
    (hv : View o now id found more found') : Held id (effects ++ more) := by
  have hmore (as : List StationEffect) (frame : Apdu) (after : List StationEffect)
      (he : more = as ++ .sent id frame :: after) (hf : frame.apci.isInformation = true) :
      ∃ earlier c source asdu, effects ++ as = earlier ++ [.taken c source asdu] ∧ c.id = id ∧
        (c.active = true → Holds id (effects ++ as)) := by
    obtain hn | ⟨c, link, source, asdu, n, r, rfl, hi, -, -, hm⟩ := hv.sent_information
    · have hm : frame ∈ frames id more := mem_frames.2 (he ▸ by simp)
      rw [hn frame hm] at hf
      cases hf
    · obtain ⟨rfl, -⟩ : as = [.taken c source asdu] ∧ after = [] := by
        rw [he] at hm
        cases as with
        | nil => cases hm
        | cons e as => cases as <;> simp_all
      exact ⟨effects, c, source, asdu, rfl, hi, fun ha => holds_taken c source asdu (ht.2 ha)⟩
  intro before frame after he hf
  obtain ⟨as, rfl, hm⟩ | ⟨bs, rfl, hb⟩ := List.append_eq_append_iff.1 he
  · exact hmore as frame after hm hf
  · cases bs with
    | nil =>
      have h := hmore [] frame after hb.symm hf
      rwa [List.append_nil, List.append_nil] at h
    | cons e bs =>
      cases hb
      exact h before frame bs rfl hf

theorem held_interleave (config : OutstationConfig) (handlers : Handlers)
    (moves : List (Millis × Move)) (id : Nat) :
    Held id ((create config handlers).interleave moves).2 := by
  refine (view_induction (P := fun effects found => Told id effects found ∧ Held id effects) id
    ⟨told_nil, fun before frame after he => ?_⟩
    (fun _ _ _ _ _ _ ⟨ht, h⟩ hv => ⟨ht.view hv, h.view ht hv⟩) config handlers moves).2
  cases before <;> cases he

/-- In a run the task that takes an ASDU is not interrupted, so that the data transfer is with its
connection. -/
theorem holds_run (config : OutstationConfig) (handlers : Handlers) (turns : List (Millis × Turn))
    (id : Nat) {before after : List StationEffect}
    (he : ((create config handlers).run turns).2 = before ++ .sent id frame :: after)
    (hf : frame.apci.isInformation = true) : Holds id before := by
  obtain ⟨moves, hm, -⟩ := run_eq_interleave (create config handlers) turns
  have ho := (rested_run config handlers turns).2
  obtain ⟨earlier, c, source, asdu, rfl, -, ha⟩ :=
    held_interleave config handlers moves id before frame after (hm ▸ he) hf
  refine ha (ho c source asdu ?_).1
  rw [he]
  simp

/-! ## Tasks that send -/

/-- A task that sends has found its connection active, or was sending already. -/
theorem View.sending (hv : View o now id found more found') (hc : found' = some c')
    (hl : c'.phase = .serving link) (hp : link.point = .sending) :
    found.any (·.active) = true ∧ more = [] ∨
      (∃ c link, found = some c ∧ c.phase = .serving link ∧ link.point = .sending) ∧
        ∀ e ∈ more, e.subject = some id → e.OfSending := by
  subst hc
  cases hv with
  | other he => exact .inr ⟨⟨c', link, rfl, hl, hp⟩, fun e hm hs => absurd hs (he e hm)⟩
  | admitted => cases hl
  | activated => cases hl; cases hp
  | @displaced c _ hi ha hm he =>
    refine .inr ⟨⟨c, link, rfl, hl, hp⟩, fun e hm hs => ?_⟩
    rw [he e hm hs]
    rfl
  | @begins c _ _ hi hb =>
    cases hb with
    | stream hc hp' =>
      cases hl
      exact .inr ⟨⟨c, _, rfl, hc, hp' ▸ hp⟩, List.forall_mem_nil _⟩
    | handed => exact .inr ⟨⟨c, link, rfl, hl, hp⟩, List.forall_mem_singleton.2 fun _ => trivial⟩
    | asked => exact .inr ⟨⟨c, link, rfl, c.phase_ask _ ▸ hl, hp⟩, List.forall_mem_nil _⟩
    | abandoned | ended => cases hl
    | _ => cases hl; cases hp
  | @proceeds c _ _ _ hi hp' =>
    cases hp' with
    | active hc hd ha => exact .inl ⟨ha, rfl⟩
    | sent hc hd hs hn hr =>
      refine .inr ⟨⟨c, _, rfl, hc, hd⟩, List.forall_mem_cons.2 ⟨fun _ => trivial, ?_⟩⟩
      rw [sentFrames, Session.sendInformation_written hr]
      exact List.forall_mem_singleton.2 fun _ => rfl
    | unconfirmed | unsent => cases hl
    | _ => cases hl; cases hp

/-- A task that sends has found its connection active, and has done nothing but send since. -/
theorem sending_interleave (config : OutstationConfig) (handlers : Handlers)
    (moves : List (Millis × Move)) (id : Nat) {c : StationConnection} {link : StationLink}
    (hc : ((create config handlers).interleave moves).1.connection? id = some c)
    (hl : c.phase = .serving link) (hp : link.point = .sending) :
    ∃ early late, moves = early ++ late ∧
      let step := (create config handlers).interleave early
      Holds id step.2 ∧ ∀ e ∈ (step.1.interleave late).2, e.subject = some id → e.OfSending := by
  induction moves using List.reverseRecOn generalizing c link with
  | nil => cases hc
  | append_singleton moves m ih =>
    rw [interleave_concat] at hc
    obtain ⟨ha, hm⟩ | ⟨⟨c, link, hc, hl, hp⟩, hm⟩ :=
      (view_move config handlers moves m id).sending hc hl hp
    · refine ⟨moves, [m], rfl, (told_interleave config handlers moves id).2 ha, ?_⟩
      rw [interleave, history, andThen, after, hm]
      exact List.forall_mem_nil _
    · obtain ⟨early, late, rfl, hh, hs⟩ := ih hc hl hp
      refine ⟨early, late ++ [m], List.append_assoc _ _ _, hh, ?_⟩
      rw [interleave_append] at hm
      rw [interleave_concat]
      exact List.forall_mem_append.2 ⟨hs, hm⟩

/-! ## Connections without the data transfer -/

/-- A connection, if there is one, is not active and does not send. -/
def Idle (found : Option StationConnection) : Prop :=
  ∀ c, found = some c → c.active = false ∧ ∀ link, c.phase = .serving link → link.point ≠ .sending

/-- Nothing is done for a master: no handler is called, and no I-frame is written to it. -/
def Ignored (id : Nat) (effects : List StationEffect) : Prop :=
  (∀ asdu call results, .called id asdu call results ∉ effects) ∧
    ∀ frame, .sent id frame ∈ effects → frame.apci.isInformation = false

theorem View.active (hv : View o now id found more (some c')) (ha : c'.active = true) :
    found.any (·.active) = true ∨ .event id .activated ∈ more := by
  cases hv with
  | other => exact .inl ha
  | admitted | displaced => cases ha
  | begins hi hb => exact .inl (hb.keeps.active ha)
  | proceeds hi hp => exact .inl (hp.keeps.active ha)
  | activated => exact .inr (List.mem_append_right _ (List.mem_singleton_self _))

theorem Idle.not_active (h : Idle found) : found.any (·.active) = false := by
  cases found with
  | none => rfl
  | some c => exact (h c rfl).1

/-- Until it is made the active one, a connection stays without the data transfer, and nothing is done for
its master. -/
theorem Idle.view (h : Idle found) (hv : View o now id found more found')
    (ha : .event id .activated ∉ more) : Idle found' ∧ Ignored id more := by
  have hn {P : Prop} (hf : found.any (·.active) = true) : P := by cases h.not_active.symm.trans hf
  refine ⟨?_, fun asdu call results hm => ?_, fun frame hm => ?_⟩
  · rintro c rfl
    refine ⟨Bool.eq_false_iff.2 fun hc => (hv.active hc).elim hn ha, fun link hl hp => ?_⟩
    obtain ⟨hf, -⟩ | ⟨⟨d, link, hd, hl, hp⟩, -⟩ := hv.sending rfl hl hp
    · exact hn hf
    · exact (h d hd).2 link hl hp
  · obtain ⟨c, replies, hc, -, ha, -⟩ := hv.dispatched hm
    cases (h c hc).1.symm.trans ha
  · obtain hf | ⟨c, link, -, -, -, -, hc, -, hl, hp, -⟩ := hv.sent_information
    · exact hf frame (mem_frames.2 hm)
    · exact absurd hp ((h c hc).2 link hl)

theorem Ignored.append (h : Ignored id effects) (hm : Ignored id more) : Ignored id (effects ++ more) :=
  ⟨fun asdu call results he => (List.mem_append.1 he).elim (h.1 asdu call results) (hm.1 asdu call results),
    fun frame he => (List.mem_append.1 he).elim (h.2 frame) (hm.2 frame)⟩

theorem idle_interleave (h : o.Sound) (hi : Idle (o.connection? id)) (moves : List (Millis × Move))
    (ha : .event id .activated ∉ (o.interleave moves).2) : Ignored id (o.interleave moves).2 := by
  refine (history_induction (o := o) (P := fun _ o effects => .event id .activated ∉ effects →
    o.Sound ∧ Idle (o.connection? id) ∧ Ignored id effects) (fun _ => ⟨h, hi, ?_⟩)
    (fun _ o effects m ih ha => ?_) moves ha).2.2
  · exact ⟨fun _ _ _ => List.not_mem_nil, nofun⟩
  · obtain ⟨he, hm⟩ := not_or.1 fun hx => ha (List.mem_append.2 hx)
    obtain ⟨h, hi, hs⟩ := ih he
    have hc := change_move o m.1 m.2
    obtain ⟨hi', hs'⟩ := hi.view (hc.view h id) hm
    exact ⟨h.change hc, hi', hs.append hs'⟩

/-! ## What comes in is counted -/

theorem move_readable (hc : o.connection? id = some c) (hl : c.phase = .serving link)
    (hp : link.point = .waiting) {octets rest : Octets} {frame : Apdu}
    (hd : Apdu.decode link.inbound = .frame octets rest (.ok frame)) (now : Millis) :
    o.move now (.begin (.readable id)) =
      after [.received id octets] (o.receiveFrame c { link with inbound := rest } frame now) := by
  rw [move, begin, takeFrame, onWaiting, onLink_of hc hl, if_pos hp, hd]

/-- An I-frame with a wrong number ends its connection. -/
theorem move_readable_refused (hc : o.connection? id = some c) (hl : c.phase = .serving link)
    (hp : link.point = .waiting) {octets rest asdu : Octets} {n r : Nat}
    (hd : Apdu.decode link.inbound = .frame octets rest (.ok (.information n r asdu)))
    {fault : Fault} {w : Window}
    (hw : Window.onInformation n r now link.session.window = .error fault w) :
    let step := o.move now (.begin (.readable id))
    step.2 = [.received id octets, .event id .closed, .hungUp id] ∧
      ∃ s, step.1.connection? id = some (c.letGo s) := by
  have hr : link.session.receive (.information n r asdu) now =
      .fail { link.session.counted now with window := w } fault := by
    simp only [Session.receive, Apdu.information, Session.counted, hw]
  have hi : c.id = id := id_of_connection? hc
  rw [move_readable hc hl hp hd]
  simp only [receiveFrame, hr, Session.Outcome.fail, sentFrames, List.map_nil, after, finish]
  refine ⟨?_, { link.session.counted now with window := w }, connection?_put hc hi⟩
  rw [hi]
  rfl

/-- An I-frame with the right numbers is counted, and acknowledged if that is due. -/
theorem move_readable_counted (hc : o.connection? id = some c) (hl : c.phase = .serving link)
    (hp : link.point = .waiting) {octets rest asdu : Octets} {n r : Nat}
    (hd : Apdu.decode link.inbound = .frame octets rest (.ok (.information n r asdu)))
    (hs : link.session.writable = true) {w : Window}
    (hw : Window.onInformation n r now link.session.window = .ok () w) :
    ∃ s, (o.move now (.begin (.readable id))).1.connection? id =
        some (c.withLink { link with session := s, inbound := rest, point := .acting (.asdu asdu) }) ∧
      (s.window = w ∨ s.window = w.confirmed) := by
  obtain ⟨hq, hr⟩ := Session.receive_information hs asdu hw
  have hi : c.id = id := id_of_connection? hc
  refine ⟨_, ?_, hq.window⟩
  rw [move_readable hc hl hp hd]
  simp only [receiveFrame, hr, after]
  exact connection?_put hc hi

/-- The numbers of an I-frame are checked when the task of a connection takes it, whatever the rest of it:
with a wrong N(S) or N(R) the connection ends, with the right ones the frame is counted. -/
def Checks (o : Outstation) (id : Nat) : Prop :=
  ∀ (now : Millis) (c : StationConnection) (link : StationLink) (octets rest asdu : Octets) (n r : Nat),
    o.connection? id = some c → c.phase = .serving link → link.point = .waiting →
    Apdu.decode link.inbound = .frame octets rest (.ok (.information n r asdu)) →
    let window := link.session.window
    let step := o.move now (.begin (.readable id))
    (n ≠ window.receiveCount ∨ (∃ fault v, Window.acknowledge r window = .error fault v) →
      step.2 = [.received id octets, .event id .closed, .hungUp id] ∧
        ∃ s, step.1.connection? id = some (c.letGo s)) ∧
      ∀ v, n = window.receiveCount → Window.acknowledge r window = .ok () v →
        link.session.writable = true →
        ∃ s, step.1.connection? id =
            some (c.withLink { link with session := s, inbound := rest, point := .acting (.asdu asdu) }) ∧
          (s.window = v.countReceived now ∨ s.window = (v.countReceived now).confirmed)

theorem checks (o : Outstation) (id : Nat) : o.Checks id := by
  intro now c link octets rest asdu n r hc hl hp hd
  refine ⟨fun hw => ?_, fun v hn hv hs => ?_⟩
  · by_cases hn : n = link.session.window.receiveCount
    · subst hn
      obtain ⟨fault, v, hv⟩ := hw.resolve_left fun h => h rfl
      exact move_readable_refused hc hl hp hd (by rw [Window.onInformation_next, hv])
    · exact move_readable_refused hc hl hp hd (Window.onInformation_mismatch hn)
  · subst hn
    exact move_readable_counted hc hl hp hd hs (by rw [Window.onInformation_next, hv])

/-! ## The main statement -/

/-- **Data are sent only on the connection that carries the data transfer.** Whatever the masters, the
application and the other connections do, and in any order: I-frames come after a confirmed start and not
after a confirmed stop, for a task that has found its connection active and has done nothing but send
since; what is confirmed is what was asked for, and as long as the stream takes octets all of it; and on a
connection without the data transfer I-frames are checked and counted, but not acted upon. In a run, where
no task is interrupted, every I-frame is written while the data transfer is with its connection. -/
theorem data_transfer_gated (config : OutstationConfig) (handlers : Handlers) (id : Nat) :
    (∀ moves : List (Millis × Move),
      let step := (create config handlers).interleave moves
      let found := step.1.connection? id
      Gated (frames id step.2) ∧
        (Holds id step.2 ↔ ∃ c, step.1.activeConnection = some c ∧ c.id = id) ∧
        (∀ now m frame, .sent id frame ∈ (step.1.move now m).2 → frame.apci.isInformation = true →
          ∃ early late, moves = early ++ late ∧
            let looked := (create config handlers).interleave early
            Holds id looked.2 ∧
              ∀ e ∈ (looked.1.interleave late).2, e.subject = some id → e.OfSending) ∧
        confirmed id step.2 <+: due id step.2 ∧
        (Open found → Balanced id step.2 found) ∧
        ((∀ early, early <+: moves →
            Writable (((create config handlers).interleave early).1.connection? id)) →
          Balanced id step.2 found) ∧
        (∀ later, Idle found → .event id .activated ∉ (step.1.interleave later).2 →
          Ignored id (step.1.interleave later).2) ∧
        step.1.Checks id) ∧
      ∀ turns : List (Millis × Turn),
        let step := (create config handlers).run turns
        (∀ before frame after, step.2 = before ++ .sent id frame :: after →
          frame.apci.isInformation = true → Holds id before) ∧
        ∀ c, step.1.connection? id = some c → c.active = false → Idle (some c) := by
  refine ⟨fun moves => ?_, fun turns => ⟨fun _ _ _ => holds_run config handlers turns id, ?_⟩⟩
  · have hsound := sound_interleave config handlers moves
    obtain ⟨hasked, hopen⟩ := confirmed_interleave config handlers moves id
    refine ⟨(gate_interleave config handlers moves id).gated,
      hsound.holds_iff (told_interleave config handlers moves id), fun now m frame hm hf => ?_, hasked,
      hopen, balanced_interleave config handlers moves id,
      fun later hi => idle_interleave hsound hi later, checks _ id⟩
    obtain hn | ⟨c, link, -, -, -, -, hc, -, hl, hp, -⟩ :=
      (view_move config handlers moves (now, m) id).sent_information
    · rw [hn frame (mem_frames.2 hm)] at hf
      cases hf
    · exact sending_interleave config handlers moves id hc hl hp
  · rintro c hc ha _ ⟨⟩
    refine ⟨ha, fun link hl hp => ?_⟩
    cases ((rested_run config handlers turns).1 id c link hc hl).symm.trans hp

/-- Two masters. The task of the first connection has found it active and is about to send an ASDU of the
queue when a command comes in on the second one, where the data transfer was not started. -/
theorem data_transfer_gated_two :
    let data : Asdu := .empty {} .spontaneous 1
    let command : Octets := [0x68, 14, 0, 0, 0, 0, 104, 1, 6, 0, 1, 0, 0, 0, 0, 0xAA]
    let moves : List (Millis × Move) :=
      [(0, .begin (.accept "first" none)), (0, .begin (.accept "second" none)),
        (0, .begin (.handshake 1 true)), (0, .proceed 1), (0, .begin (.handshake 2 true)), (0, .proceed 2),
        (1, .begin (.arrive 1 [0x68, 4, 7, 0, 0, 0])), (1, .begin (.readable 1)), (1, .proceed 1),
        (1, .proceed 1), (1, .proceed 1), (1, .proceed 1), (2, .begin (.enqueue data)), (2, .lookUp),
        (2, .wake 1), (2, .begin (.command 1)), (2, .proceed 1), (2, .begin (.arrive 2 command))]
    let step := (create {} {}).interleave moves
    let sent := step.1.move 3 (.proceed 1)
    let later := step.1.interleave [(3, .begin (.readable 2)), (3, .proceed 2), (3, .proceed 2)]
    let run := (create {} {}).run
      [(0, .whole (.accept "first" none)), (0, .whole (.handshake 1 true)),
        (1, .whole (.arrive 1 [0x68, 4, 7, 0, 0, 0])), (1, .whole (.readable 1)),
        (2, .whole (.enqueue data)), (2, .whole (.command 1))]
    frames 1 (step.2 ++ sent.2) = [.unnumbered .startCon, .information 0 0 data.encode] ∧
      Gated (frames 1 step.2) ∧ confirmed 1 step.2 = [.startCon] ∧
      Balanced 1 step.2 (step.1.connection? 1) ∧
      (∃ early late, moves = early ++ late ∧ Holds 1 ((create {} {}).interleave early).2) ∧
      Ignored 2 later.2 ∧
      ∃ (c : StationConnection) (link : StationLink) (s : Session),
        step.1.connection? 2 = some c ∧ c.active = false ∧
        (step.1.move 3 (.begin (.readable 2))).1.connection? 2 = some (c.withLink
          { link with session := s, inbound := [], point := .acting (.asdu (command.drop 6)) }) ∧
        s.window.receiveCount = 1 ∧
        ∃ before after, run.2 = before ++ .sent 1 (.information 0 0 data.encode) :: after ∧
          Holds 1 before := by
  intro data command moves step sent later run
  obtain ⟨hg, -, hs, -, -, hb, -, -⟩ := (data_transfer_gated {} {} 1).1 moves
  obtain ⟨-, -, -, -, -, -, hi, hc⟩ := (data_transfer_gated {} {} 2).1 moves
  have hsent : .information 0 0 data.encode ∈ frames 1 sent.2 := by decide +kernel
  have hwritable : ∀ early ∈ moves.inits, ∀ c ∈ ((create {} {}).interleave early).1.connection? 1,
      ∀ link ∈ c.link?, link.session.writable = true := by decide +kernel
  obtain ⟨c, hc₂, ha, link, hl, hp, hw, hs₂, hr⟩ : ∃ c ∈ step.1.connection? 2, c.active = false ∧
      ∃ link ∈ c.link?, link.point = .waiting ∧ link.session.window = .start {} ∧
        link.session.writable = true ∧ link.inbound = command := by decide +kernel
  have hl := StationConnection.phase_of_link? hl
  have htransfers : transfers 2 later.2 = [] := by decide +kernel
  refine ⟨by decide +kernel, hg, by decide +kernel, hb fun early he c link hc hl => ?_, ?_, ?_, ?_⟩
  · exact hwritable early ((List.mem_inits _ _).2 he) c hc link
      (StationConnection.link?_of_serving hl)
  · obtain ⟨early, late, hm, hh, -⟩ := hs 3 (.proceed 1) _ (mem_frames.1 hsent) rfl
    exact ⟨early, late, hm, hh⟩
  · refine hi _ (fun d hd => ?_) fun hm => ?_
    · obtain rfl : c = d := Option.some.inj (hc₂.symm.trans hd)
      refine ⟨ha, fun link' hl' hp' => ?_⟩
      obtain rfl := ConnectionPhase.serving.inj (hl.symm.trans hl')
      cases hp.symm.trans hp'
    · have ht : .activated ∈ transfers 2 later.2 := List.mem_filterMap.2 ⟨_, hm, if_pos ⟨rfl, nofun⟩⟩
      rw [htransfers] at ht
      cases ht
  · have hd : Apdu.decode link.inbound = .frame command [] (.ok (.information 0 0 (command.drop 6))) := by
      rw [hr]
      rfl
    have hack : Window.acknowledge 0 link.session.window = .ok () (.start {}) := by
      rw [hw]
      rfl
    obtain ⟨s, hs, hw⟩ := (hc 3 c link _ _ _ _ _ hc₂ hl hp hd).2 _ (hw ▸ rfl) hack hs₂
    have hrun : .information 0 0 data.encode ∈ frames 1 run.2 := by decide +kernel
    obtain ⟨before, after, he⟩ := List.append_of_mem (mem_frames.1 hrun)
    refine ⟨c, link, s, hc₂, ha, hs, ?_, before, after, he,
      ((data_transfer_gated {} {} 1).2 _).1 before _ after he rfl⟩
    obtain hw | hw := hw
    · rw [hw]
      rfl
    · rw [hw]
      rfl

end

end Outstation

end Telecontrol
