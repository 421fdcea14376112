import Telecontrol.Proofs.Apdu.Grammar
import Telecontrol.Proofs.Outstation.Gating

/-!
# Every confirmation is asked for

The confirmations that a connection writes are those that its master asked for, in order. None is missing
while the stream takes what is written, but the one that the task is about to write.

* `Apdu.asks?`, `Apdu.confirms?`: the confirmation that a frame asks for, and the one that it is.
* `Outstation.due`, `Outstation.confirmed`: the confirmations of a connection that were asked for, and those
  that were written. `Outstation.toConfirm`: the one that is still to be written.
* `Outstation.Balanced`: the three of them agree. `Outstation.Balanced.view`: a change keeps it, unless
  nothing can be written any more.
-/

namespace Telecontrol

/-- The confirmation that a frame asks for. -/
def Apdu.asks? (f : Apdu) : Option ControlFunction :=
  match f.apci with
  | .unnumbered function => function.confirmation
  | _ => none

/-- The confirmation that a frame is. -/
def Apdu.confirms? (f : Apdu) : Option ControlFunction :=
  match f.apci with
  | .unnumbered .startCon => some .startCon
  | .unnumbered .stopCon => some .stopCon
  | .unnumbered .testCon => some .testCon
  | _ => none

/-- The confirmation that a task is still to write. -/
def TaskPoint.toConfirm : TaskPoint → List ControlFunction
  | .acting (.control .startAct) => [.startCon]
  | .acting (.control .stopAct) => [.stopCon]
  | .confirming function => (Apdu.unnumbered function).confirms?.toList
  | _ => []

/-! ## What a session confirms -/

namespace Session

variable {s : Session} {frame : Apdu} {now : Millis} {inbound : Inbound} {function : ControlFunction}

theorem filterMap_confirms_of_writes {α : Type} {o : Outcome α} (h : o.Writes (·.confirms? = none)) :
    o.written.filterMap Apdu.confirms? = [] :=
  List.filterMap_eq_nil_iff.2 h

/-- A received frame is confirmed at once, or its confirmation is left to the task. -/
theorem receive_confirms (h : (s.receive frame now).result = .ok inbound) :
    frame.asks?.toList =
      (s.receive frame now).written.filterMap Apdu.confirms? ++ (TaskPoint.acting inbound).toConfirm := by
  obtain ⟨apci, asdu⟩ := frame
  cases apci with
  | information n r =>
    simp only [receive] at h ⊢
    cases hw : Window.onInformation n r now (s.counted now).window with
    | error fault w =>
      rw [hw] at h
      cases h
    | ok u w =>
      simp only [hw] at h ⊢
      obtain ⟨-, -, rfl⟩ := andThen_done_ok h
      rw [written_andThen_done, filterMap_confirms_of_writes (writes_acknowledgeIfDue fun _ => rfl)]
      rfl
  | supervisory r =>
    simp only [receive] at h ⊢
    cases hw : Window.acknowledge r (s.counted now).window with
    | error fault w =>
      rw [hw] at h
      cases h
    | ok u w =>
      rw [hw] at h
      cases h
      rfl
  | unnumbered function =>
    cases function with
    | testAct =>
      simp only [receive, receiveControl] at h ⊢
      obtain ⟨u, hu, rfl⟩ := andThen_done_ok h
      rw [written_andThen_done]
      obtain ⟨fault, he⟩ | ⟨-, he⟩ := sendControl_cases _ .testCon now
      · rw [he] at hu
        cases hu
      · rw [he]
        rfl
    | _ => cases h; rfl

/-- On a stream that takes octets only a numbered frame can be refused. -/
theorem asks_of_receive_error {fault : Fault} (hs : s.writable = true)
    (h : (s.receive frame now).result = .error fault) : frame.asks? = none := by
  obtain ⟨apci, asdu⟩ := frame
  cases apci with
  | unnumbered function =>
    obtain ⟨a, ha⟩ := (receive_unnumbered hs now function).1.ok
    have he : (s.receive (.unnumbered function) now).result = .error fault := h
    rw [ha] at he
    cases he
  | _ => rfl

end Session

namespace Outstation

/-- The confirmations that were written on a connection. -/
def confirmed (id : Nat) (effects : List StationEffect) : List ControlFunction :=
  (frames id effects).filterMap Apdu.confirms?

/-- The confirmations that the frames asked for which came in on a connection. -/
def due (id : Nat) (effects : List StationEffect) : List ControlFunction :=
  effects.filterMap fun
    | .received i octets => if i = id then (Apdu.ofOctets octets).toOption.bind Apdu.asks? else none
    | _ => none

/-- The confirmation that the task of a connection is still to write. -/
def toConfirm (found : Option StationConnection) : List ControlFunction :=
  (found.bind (·.link?)).elim [] (·.point.toConfirm)

/-- Every confirmation that was asked for was written, or is about to be. -/
def Balanced (id : Nat) (effects : List StationEffect) (found : Option StationConnection) : Prop :=
  due id effects = confirmed id effects ++ toConfirm found

variable {o : Outstation} {now : Millis} {id : Nat} {c c' : StationConnection} {link : StationLink}
  {found found' : Option StationConnection} {effects more : List StationEffect}

theorem due_append (effects more : List StationEffect) :
    due id (effects ++ more) = due id effects ++ due id more :=
  List.filterMap_append

theorem confirmed_append (effects more : List StationEffect) :
    confirmed id (effects ++ more) = confirmed id effects ++ confirmed id more := by
  rw [confirmed, frames_append, List.filterMap_append]
  rfl

theorem confirmed_of_frames (h : frames id effects = []) : confirmed id effects = [] := by
  rw [confirmed, h, List.filterMap_nil]

theorem toConfirm_of_link (hc : c.phase = .serving link) : toConfirm (some c) = link.point.toConfirm := by
  rw [toConfirm, Option.bind_some, StationConnection.link?_of_serving hc, Option.elim_some]

theorem toConfirm_of_no_link (hc : ∀ link, c.phase ≠ .serving link) : toConfirm (some c) = [] := by
  rw [toConfirm, Option.bind_some, StationConnection.link?_eq_none hc, Option.elim_none]

theorem due_eq_nil (h : ∀ octets, .received id octets ∉ more) : due id more = [] := by
  refine List.filterMap_eq_nil_iff.2 fun e he => ?_
  cases e with
  | received i octets => exact if_neg fun hi => h octets (by rwa [← hi])
  | _ => rfl

theorem due_of_subject (h : ∀ e ∈ more, e.subject ≠ some id) : due id more = [] :=
  due_eq_nil fun _ hf => h _ hf rfl

theorem due_sentFrames {α : Type} (i : Nat) (outcome : Session.Outcome α) :
    due id (sentFrames i outcome) = [] := by
  simp [due, sentFrames, List.filterMap_map]

theorem due_received (octets : Octets) :
    due id [.received id octets] = ((Apdu.ofOctets octets).toOption.bind Apdu.asks?).toList := by
  cases h : (Apdu.ofOctets octets).toOption.bind Apdu.asks? <;> simp [due, h]

/-! ## The balance of a connection -/

/-- What was to be confirmed before and is asked for now, is confirmed now or to be confirmed then. -/
theorem Balanced.step (h : Balanced id effects found)
    (hm : toConfirm found ++ due id more = confirmed id more ++ toConfirm found') :
    Balanced id (effects ++ more) found' := by
  rw [Balanced, due_append, confirmed_append, h, List.append_assoc, hm, List.append_assoc]

/-- Nothing is asked for and nothing is confirmed. -/
theorem Balanced.silent (h : Balanced id effects found) (hd : due id more = [])
    (hf : frames id more = []) (ht : toConfirm found' = toConfirm found) :
    Balanced id (effects ++ more) found' :=
  h.step (by rw [hd, confirmed_of_frames hf, List.append_nil, List.nil_append, ht])

/-- The stream of a connection takes octets, as long as the connection has it. -/
def Writable (found : Option StationConnection) : Prop :=
  ∀ c link, found = some c → c.phase = .serving link → link.session.writable = true

theorem Balanced.begins (h : Balanced c.id effects (some c)) (hb : c.Begins o now more c')
    (hw : Writable (some c) ∨ Open (some c')) : Balanced c.id (effects ++ more) (some c') := by
  cases hb with
  | secured hc | abandoned hc =>
    refine h.silent rfl rfl (Eq.symm (toConfirm_of_no_link fun link hl => ?_))
    rw [hl] at hc
    cases hc
  | @ended link ending hc hp he s =>
    have ht : toConfirm (some c) = [] := by rw [toConfirm_of_link hc, hp]; rfl
    refine h.step ?_
    rw [ht, List.nil_append, due_append, confirmed_append]
    cases he with
    | silent => rfl
    | malformed hd =>
      rw [due_received, ← Apdu.decode_content hd]
      rfl
    | refused hd hr =>
      rw [due_received, ← Apdu.decode_content hd]
      rcases hw with hw | hw
      · have ha := Session.asks_of_receive_error (hw c link rfl hc) hr
        simp only [Except.toOption, Option.bind_some, ha]
        rfl
      · cases hw _ rfl
  | stream hc hp => exact h.silent rfl rfl (by rw [toConfirm_of_link hc, toConfirm_of_link rfl, hp])
  | @frame link octets rest frame inbound hc hp hd hr =>
    have ht : toConfirm (some c) = [] := by rw [toConfirm_of_link hc, hp]; rfl
    have hf : confirmed c.id (.received c.id octets :: sentFrames c.id (link.session.receive frame now)) =
        (link.session.receive frame now).written.filterMap Apdu.confirms? := by
      rw [← List.singleton_append, confirmed_append, confirmed, confirmed, frames_sentFrames]
      rfl
    refine h.step ?_
    rw [ht, List.nil_append, hf, toConfirm_of_link rfl, ← List.singleton_append, due_append,
      due_sentFrames, List.append_nil, due_received, ← Apdu.decode_content hd]
    exact Session.receive_confirms hr
  | response hc hp | woken hc hp =>
    exact h.silent rfl rfl (by rw [toConfirm_of_link hc, toConfirm_of_link rfl, hp]; rfl)
  | timers hc hp =>
    refine h.step ?_
    rw [toConfirm_of_link hc, hp, due_sentFrames, confirmed, frames_sentFrames,
      Session.filterMap_confirms_of_writes (Session.writes_onTimer (fun _ => rfl) rfl)]
    rfl
  | handed => exact h.silent rfl rfl rfl
  | asked =>
    refine h.silent rfl rfl ?_
    rw [toConfirm, toConfirm, Option.bind_some, Option.bind_some, c.link?_ask]

theorem Balanced.proceeds {queue : OutboundQueue} (h : Balanced c.id effects (some c))
    (hp : c.Proceeds o now more c' queue) (hw : Writable (some c) ∨ Open (some c')) :
    Balanced c.id (effects ++ more) (some c') := by
  cases hp with
  | @ignored link inbound hc hp hs ht =>
    refine h.silent rfl rfl ?_
    rw [toConfirm_of_link hc, toConfirm_of_link rfl, hp]
    cases inbound with
    | control function => cases function <;> first | rfl | contradiction
    | _ => rfl
  | @dispatched link octets asdu hc hp ha hd =>
    have hr := StationConnection.isRegistered_of_link hc
    refine h.silent (filterMap_dispatched ha hr (fun _ => rfl) (fun _ _ => rfl) fun _ => rfl)
      (filterMap_dispatched ha hr (fun _ => rfl) (fun _ _ => rfl) fun _ => rfl) ?_
    rw [toConfirm_of_link hc, toConfirm_of_link rfl, hp]
    rfl
  | stopped hc hp =>
    refine h.silent (by split <;> rfl) (by split <;> rfl) ?_
    rw [toConfirm_of_link hc, toConfirm_of_link rfl, hp]
    rfl
  | @confirmed link function hc hp hr =>
    refine h.step ?_
    rw [toConfirm_of_link hc, hp, toConfirm_of_link rfl, due_sentFrames, confirmed, frames_sentFrames,
      Session.sendControl_written hr]
    cases hf : (Apdu.unnumbered function).confirms? <;> simp [TaskPoint.toConfirm, hf]
  | @unconfirmed link function fault hc hp hr s =>
    rcases hw with hw | hw
    · have hok : function.Defined → ∃ a, (link.session.sendControl function now).result = .ok a :=
        fun hf => (Session.sendControl_quiet (hw c link rfl hc) hf).ok
      cases function with
      | undefined =>
        refine h.silent rfl rfl (Eq.symm ?_)
        rw [toConfirm_of_link hc, hp]
        rfl
      | _ =>
        -- a stream that takes octets takes the confirmation
        obtain ⟨a, ha⟩ := hok trivial
        rw [ha] at hr
        cases hr
    · cases hw _ rfl
  | @sent link link' source asdu queue hc hp hs hn hr =>
    have hd : due c.id (.taken c source asdu ::
        sentFrames c.id (link'.session.sendInformation asdu.encode now)) = [] := due_sentFrames _ _
    have hf : confirmed c.id (.taken c source asdu ::
        sentFrames c.id (link'.session.sendInformation asdu.encode now)) = [] := by
      rw [sentFrames, Session.sendInformation_written hr]
      simp [confirmed, frames, Apdu.confirms?, Apdu.information]
    refine h.step ?_
    rw [hd, hf, toConfirm_of_link hc, hp, toConfirm_of_link rfl]
    simp [(point_of_nextAsdu? hn).trans hp, TaskPoint.toConfirm]
  | unsent hc hp => exact h.silent rfl rfl (by rw [toConfirm_of_link hc, hp]; rfl)
  | restarted hc hp | active hc hp | inactive hc hp | rested hc hp =>
    exact h.silent rfl rfl (by rw [toConfirm_of_link hc, toConfirm_of_link rfl, hp]; rfl)

theorem Balanced.view (h : Balanced id effects found) (hv : View o now id found more found')
    (hw : Writable found ∨ Open found') : Balanced id (effects ++ more) found' := by
  cases hv with
  | other he => exact h.silent (due_of_subject he) (frames_of_subject he) rfl
  | admitted ha peer deadline =>
    refine h.silent (due_eq_nil fun octets hm => ?_) (frames_admitted ha) rfl
    obtain rfl | rfl := ha
    · cases List.mem_singleton.1 hm
    · rcases List.mem_cons.1 hm with hm | hm
      · cases hm
      · cases List.mem_singleton.1 hm
  | begins hi hb =>
    subst hi
    exact h.begins hb hw
  | proceeds hi hp =>
    subst hi
    exact h.proceeds hp hw
  | activated hi hl hp ha he =>
    refine h.silent ?_ (frames_activated he) ?_
    · rw [due_append, due_of_subject he]
      rfl
    · rw [toConfirm_of_link hl, hp]
      rfl
  | displaced hi ha hm he =>
    exact h.silent (due_eq_nil fun _ hf => by cases he _ hf rfl) (frames_displaced he) rfl

/-! ## In every interleaving -/

/-- Nothing is confirmed when a connection ends, or when it is over already. -/
theorem View.confirmed_eq_nil (hv : View o now id found more (some c)) (hr : c.isRegistered = false) :
    confirmed id more = [] := by
  cases hv with
  | other he => exact confirmed_of_frames (frames_of_subject he)
  | displaced hi ha hm he => exact confirmed_of_frames (frames_displaced he)
  | begins hi hb =>
    subst hi
    cases hb with
    | ended hc hp he s => cases he <;> rfl
    | abandoned | handed | asked => rfl
    | _ => cases hr
  | proceeds hi hp =>
    subst hi
    cases hp with
    | unconfirmed | unsent => rfl
    | _ => cases hr
  | _ => cases hr

theorem Balanced.confirmed_prefix (h : Balanced id effects found) :
    confirmed id effects <+: due id effects := ⟨_, h.symm⟩

/-- A connection confirms what it was asked to confirm, in order. While it has its stream, nothing is
missing but what its task is about to write. -/
theorem confirmed_interleave (config : OutstationConfig) (handlers : Handlers)
    (moves : List (Millis × Move)) (id : Nat) :
    let step := (create config handlers).interleave moves
    confirmed id step.2 <+: due id step.2 ∧
      (Open (step.1.connection? id) → Balanced id step.2 (step.1.connection? id)) := by
  refine view_induction (P := fun effects found => confirmed id effects <+: due id effects ∧
      (Open found → Balanced id effects found)) id
    ⟨List.nil_prefix, fun _ => rfl⟩ (fun o now effects found more found' ⟨hp, hb⟩ hv => ?_)
    config handlers moves
  by_cases hr : Open found'
  · have hb' := (hb (hv.open hr)).view hv (.inr hr)
    exact ⟨hb'.confirmed_prefix, fun _ => hb'⟩
  · obtain ⟨c, rfl, hr'⟩ : ∃ c, found' = some c ∧ c.isRegistered = false := by
      simpa [Open] using hr
    rw [due_append, confirmed_append, hv.confirmed_eq_nil hr', List.append_nil]
    exact ⟨hp.trans (List.prefix_append _ _), fun h => absurd h hr⟩

/-- When a connection ends although its stream took all that was written, nothing is missing either. -/
theorem balanced_interleave (config : OutstationConfig) (handlers : Handlers)
    (moves : List (Millis × Move)) (id : Nat)
    (hw : ∀ early, early <+: moves →
      Writable (((create config handlers).interleave early).1.connection? id)) :
    let step := (create config handlers).interleave moves
    Balanced id step.2 (step.1.connection? id) := by
  induction moves using List.reverseRecOn with
  | nil => rfl
  | append_singleton moves m ih =>
    have h := ih fun early he => hw early (he.trans (List.prefix_append _ _))
    rw [interleave_concat]
    exact h.view (view_move config handlers moves m id) (.inl (hw moves (List.prefix_append _ _)))

end Outstation

end Telecontrol
