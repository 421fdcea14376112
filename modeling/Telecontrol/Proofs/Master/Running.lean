import Telecontrol.Proofs.Master.Frames
import Telecontrol.Proofs.Master.Request
import Telecontrol.Proofs.Master.Stream
import Telecontrol.Proofs.Session.Deadlines

/-!
# The steps of a link

What each input of a master keeps of the account of its link: the link goes on, or it ends.

* `Master.Running`, `Master.Over`: a link that runs or has ended, and its account.
* `Master.Running.account`: the account after more effects. `Master.Running.writes`, `Master.Running.takes`,
  `Master.Running.ends` and `Master.Running.refused_ends` are the four ways in which a link changes.
* `Master.Running.consume`: any octets go that way, frame by frame.
* `Master.Ends`: what ends a link, input by input; `Master.Running.apply_single`: nothing else does.
-/

namespace Telecontrol

namespace Master

variable {m n n' : Master} {effects : List MasterEffect} {link : MasterLink} {session : Session}
  {written : List Apdu} {octets bs : Octets} {frame : Apdu} {i : IdealWindow} {now : Millis}

/-! ## Links with their accounts -/

/-- The link that `m` has started runs in `n`. -/
structure Running (m n : Master) (effects : List MasterEffect) (link : MasterLink) : Prop
    extends Account m n effects where
  runs : n.link = some link
  config : n.config = m.config
  attached : n.attached = true
  counts : link.session.Counts (m.ledger effects).window
  answers : n.answers = m.answers.map (·.drop (asdusIn effects).length)

/-- The link that `m` has started has ended in `n`. -/
structure Over (m n : Master) (effects : List MasterEffect) : Prop extends Account m n effects where
  closed : n.link = none

/-! ## Changes of a link -/

/-- The account after more effects, which have brought the frames `new`, and `last` where the link has ended. -/
theorem Running.account (h : Running m n effects link) {later : List MasterEffect} (new : List Apdu)
    (last : List Octets) (htaken : (m.ledger (effects ++ later)).taken = (m.ledger effects).taken ++ new)
    (hframes : (framesIn later).map Apdu.ofOctets = new.map .ok ++ last.map Apdu.ofOctets)
    (hlast : last.length ≤ 1 ∧ (n'.link ≠ none → last = []))
    (hevents : eventsIn later = new.filterMap Apdu.report? ++ if n'.link = none then [.closed] else [])
    (hended : n'.link = none → later.getLast? = some (.event .closed))
    (hstate : n'.state = stateAfter n'.link (eventsIn effects ++ eventsIn later))
    (hasdus : asdusIn later =
      if m.answers = none then [] else new.filterMap (Apdu.carried? m.config.parameters))
    (hrefused : ∀ answers k, m.answers = some answers → answers[k]? = some false →
      (asdusIn effects).length ≤ k →
      (asdusIn effects).length + (asdusIn later).length ≤ k + if n'.link = none then 1 else 0)
    (htracks : ∀ link, n'.link = some link → link.session.window.Tracks (m.ledger (effects ++ later)).window) :
    Account m n' (effects ++ later) where
  received := by
    obtain ⟨before, hbefore, -, hn⟩ := h.received
    have hbefore := hn (by simp [h.runs]) ▸ hbefore
    refine ⟨last.map Apdu.ofOctets, ?_, ?_, fun hne => by rw [hlast.2 hne, List.map_nil]⟩
    · rw [htaken, framesIn_append, List.map_append, hbefore, hframes, List.map_append, List.append_nil,
        List.append_assoc]
    · rw [List.length_map]
      exact hlast.1
  events := by
    have he := h.events
    rw [h.runs, if_neg nofun, List.append_nil] at he
    rw [htaken, eventsIn_append, he, hevents, List.filterMap_append, List.cons_append, List.cons_append,
      List.append_assoc]
  ended hn := by rw [List.getLast?_append, hended hn, Option.some_or]
  state := by rw [eventsIn_append, hstate]
  delivered := by
    rw [htaken, asdusIn_append, h.delivered, hasdus]
    split
    · rfl
    · rw [List.filterMap_append]
  refused answers k ha hk := by
    have hle := h.refused answers k ha hk
    rw [h.runs, if_neg nofun, Nat.add_zero] at hle
    rw [asdusIn_append, List.length_append]
    exact hrefused answers k ha hk hle
  tracks := htracks

/-- Frames were written that change the counters only. -/
theorem Running.writes (h : Running m n effects link) (written : List Apdu) {link' : MasterLink}
    (hb : (m.ledger (effects ++ written.map .sent)).taken = (m.ledger effects).taken)
    (hc : link'.session.Counts (m.ledger (effects ++ written.map .sent)).window) :
    Running m { n with link := some link' } (effects ++ written.map .sent) link' where
  toAccount := by
    refine h.account [] [] (by rw [hb, List.append_nil]) (by simp) (by simp) (by simp) nofun ?_
      (by simp) (fun answers k ha hk hle => by simpa using hle) ?_
    · rw [eventsIn_sent, List.append_nil]
      have hs := h.state
      rw [h.runs] at hs
      exact hs
    · rintro _ ⟨⟩
      exact hc.tracks
  runs := rfl
  config := h.config
  attached := h.attached
  counts := hc
  answers := by simpa using h.answers

/-- The answer to the next ASDU, if it is `false`, makes the application refuse it. -/
theorem Running.refuses (h : Running m n effects link) {answers : List Bool} (ha : m.answers = some answers)
    (hc : frame.carried? n.config.parameters ≠ none) (hk : answers[(asdusIn effects).length]? = some false) :
    n.Refuses frame := by
  obtain ⟨hlt, hget⟩ := List.getElem?_eq_some_iff.1 hk
  refine ⟨hc, answers.drop ((asdusIn effects).length + 1), ?_⟩
  rw [h.answers, ha, Option.map_some, List.drop_eq_getElem_cons hlt, hget]

/-- An ASDU that is not refused is not the one that is answered with `false`. -/
theorem Running.accepted (h : Running m n effects link) (hr : ¬ n.Refuses frame) {answers : List Bool} {k : Nat}
    (ha : m.answers = some answers) (hk : answers[k]? = some false) (hle : (asdusIn effects).length ≤ k) :
    (asdusIn effects).length + (frame.carried? n.config.parameters).toList.length ≤ k := by
  cases hc : frame.carried? n.config.parameters with
  | none => exact hle
  | some asdu =>
    have hne : (asdusIn effects).length ≠ k := by
      rintro rfl
      refine hr (h.refuses ha ?_ hk)
      rw [hc]
      exact nofun
    show (asdusIn effects).length + 1 ≤ k
    omega

/-- A frame was taken, and the application has not refused what it brings. -/
theorem Running.takes (h : Running m n effects link) (ho : Apdu.ofOctets octets = .ok frame)
    (ht : (m.ledger effects).window.take? frame = some i) (hr : ¬ n.Refuses frame) (now : Millis) :
    ∃ link', Running m (n.onFrame link frame now).1
      (effects ++ .received octets :: (n.onFrame link frame now).2) link' := by
  obtain ⟨session, written, hf, hs, hw⟩ := onFrame_takes h.counts ht now
  have hp : n.config.parameters = m.config.parameters := congrArg MasterConfig.parameters h.config
  have hh : n.answers.isSome = m.answers.isSome := by rw [h.answers, Option.isSome_map]
  refine ⟨{ link with session }, ?_⟩
  rw [hf, onInbound_told _ hr, hh, hp]
  generalize htold : frame.told m.config.parameters m.answers.isSome = told
  generalize hlater : [.received octets] ++ (written.map .sent ++ told) = later
  show Running m (n.toldOf { link with session } frame) (effects ++ ([.received octets] ++
    (written.map .sent ++ told))) _
  rw [hlater]
  have hl : m.ledger (effects ++ later) = ⟨i, (m.ledger effects).taken ++ [frame]⟩ := by
    rw [← hlater, ← htold, ← List.append_assoc, ← List.append_assoc, ledger_told, ledger_sent _ hw,
      ledger_received _ ho ht]
  have hframes : framesIn later = [octets] := by
    rw [← hlater, framesIn_append, framesIn_append, framesIn_sent, ← htold, framesIn_told]
    rfl
  have hevents : eventsIn later = frame.report?.toList := by
    rw [← hlater, eventsIn_append, eventsIn_append, eventsIn_sent, ← htold, eventsIn_told]
    rfl
  have hasdus : asdusIn later =
      if m.answers.isSome then (frame.carried? m.config.parameters).toList else [] := by
    rw [← hlater, asdusIn_append, asdusIn_append, asdusIn_sent, ← htold, asdusIn_told]
    rfl
  refine {
    runs := rfl
    config := h.config
    attached := h.attached
    counts := hl ▸ hs
    toAccount := ?_
    answers := ?_ }
  · refine h.account [frame] [] (by rw [hl]) (by rw [hframes]; simp [ho]) (by simp) ?_ nofun ?_ ?_ ?_ ?_
    · rw [hevents, if_neg nofun]
      cases hreport : frame.report? <;> simp [hreport]
    · have hstate := h.state
      rw [h.runs] at hstate
      rw [hevents]
      exact state_toldOf frame hstate
    · rw [hasdus]
      cases m.answers with
      | none => rfl
      | some answers => cases hcarried : frame.carried? m.config.parameters <;> simp [hcarried]
    · intro answers k ha hk hle
      rw [hasdus, ha, ← hp]
      exact h.accepted hr ha hk hle
    · rintro _ ⟨⟩
      rw [hl]
      exact hs.tracks
  · show n.answers.map _ = _
    rw [h.answers, hp, asdusIn_append, hasdus]
    cases m.answers with
    | none => rfl
    | some answers => simp [List.drop_drop]

/-- The link ended, at a frame that was not taken or for another reason. -/
theorem Running.ends (h : Running m n effects link) (last : List Octets) (hlast : last.length ≤ 1)
    (hb : m.ledger (effects ++ last.map .received) = m.ledger effects) (session : Session) :
    Over m (n.finish session).1 (effects ++ (last.map .received ++ (n.finish session).2)) where
  closed := rfl
  toAccount := by
    show Account m _ (effects ++ (last.map .received ++ [.event .closed]))
    have hl : m.ledger (effects ++ (last.map .received ++ [.event .closed])) = m.ledger effects := by
      rw [← List.append_assoc, ledger_event, hb]
    refine h.account [] last ?_ ?_ ⟨hlast, fun hne => absurd rfl hne⟩ ?_ ?_ rfl ?_ ?_ nofun
    · rw [hl, List.append_nil]
    · simp [framesIn]
    · simp [eventsIn, finish]
    · intro _
      rw [List.getLast?_concat]
    · simp [asdusIn]
    · intro answers k ha hk hle
      rw [asdusIn_append, asdusIn_received]
      exact Nat.le_add_right_of_le hle

/-- A frame was taken, and the application has refused its ASDU. -/
theorem Running.refused_ends (h : Running m n effects link) (ho : Apdu.ofOctets octets = .ok frame)
    (ht : (m.ledger effects).window.take? frame = some i) (hr : n.Refuses frame) (now : Millis) :
    Over m (n.onFrame link frame now).1 (effects ++ .received octets :: (n.onFrame link frame now).2) := by
  obtain ⟨session, written, hf, hs, hw⟩ := onFrame_takes h.counts ht now
  obtain ⟨asdu, more, hc, ha, hi⟩ := onInbound_refuses { link with session } hr
  have hp : n.config.parameters = m.config.parameters := congrArg MasterConfig.parameters h.config
  rw [hp] at hc
  have hsome : m.answers ≠ none := by
    intro hnone
    rw [h.answers, hnone] at ha
    cases ha
  rw [hf, hi]
  show Over m (finish { n with answers := some more } session).1 (effects ++ ([MasterEffect.received octets] ++
    (written.map .sent ++ ([.delivered asdu] ++ [.event .closed]))))
  refine { closed := rfl, toAccount := ?_ }
  refine h.account [frame] [] ?_ ?_ (by simp) ?_ ?_ rfl ?_ ?_ nofun
  · rw [← List.append_assoc, ← List.append_assoc, ← List.append_assoc, ledger_event, ledger_delivered,
      ledger_sent _ hw, ledger_received _ ho ht]
  · simp [framesIn, ho]
  · simp [eventsIn, finish, Apdu.report?_of_carried hc]
  · intro _
    rw [← List.append_assoc, ← List.append_assoc, List.getLast?_concat]
  · rw [if_neg hsome]
    simp [asdusIn, hc]
  · intro answers k _ hk hle
    rw [asdusIn_append, asdusIn_append, asdusIn_sent]
    exact Nat.succ_le_succ hle

theorem Running.ends_quietly (h : Running m n effects link) (session : Session) :
    Over m (n.finish session).1 (effects ++ (n.finish session).2) :=
  h.ends [] (Nat.zero_le 1) (by rw [List.map_nil, List.append_nil]) session

theorem Running.ends_at (h : Running m n effects link) (octets : Octets)
    (hb : m.ledger (effects ++ [.received octets]) = m.ledger effects) (session : Session) :
    Over m (n.finish session).1 (effects ++ .received octets :: (n.finish session).2) :=
  h.ends [octets] (Nat.le_refl 1) hb session

/-- A master that has closed its link is detached from it. -/
theorem Over.detached (h : Over m n effects) : Over m { n with attached := false } effects where
  closed := h.closed
  toAccount := ⟨h.received, h.events, h.ended, h.state, h.delivered, h.refused, h.tracks⟩

/-- Undecoded octets are kept. -/
theorem Running.holds (h : Running m n effects link) (bs : Octets) :
    Running m { n with link := some { link with inbound := bs } } (effects ++ []) { link with inbound := bs } := by
  have hnone : effects ++ ([] : List Apdu).map .sent = effects := List.append_nil effects
  exact h.writes [] (by rw [hnone]) (by rw [hnone]; exact h.counts)

/-! ## Requests and timers -/

/-- The step ends the link if `ended` holds, and otherwise the link goes on. -/
def Goes (m : Master) (effects : List MasterEffect) (step : Step) (ended : Prop) : Prop :=
  (ended → Over m step.1 (effects ++ step.2)) ∧
    (¬ ended → ∃ link, Running m step.1 (effects ++ step.2) link)

theorem Running.stays (h : Running m n effects link) : Goes m effects (n, []) False :=
  ⟨False.elim, fun _ => ⟨link, (List.append_nil effects).symm ▸ h⟩⟩

theorem Running.sendControl (h : Running m n effects link) (function : ControlFunction) (now : Millis) :
    Goes m effects (n.sendControl function now).1 False := by
  have ho := Session.sendControl_ok h.counts.writable function now
  have hstep : (n.sendControl function now).1 =
      ({ n with link := some { link with session := link.session.sent.activated function now } },
        [.unnumbered function].map .sent) := by
    simp only [Master.sendControl, h.runs, answer, ho]
    rfl
  have hbare : ∀ f ∈ [Apdu.unnumbered function], f.apci.isInformation = false := by
    intro f hf
    rw [List.mem_singleton.1 hf]
    rfl
  rw [hstep]
  refine ⟨False.elim, fun _ => ⟨_, h.writes _ ?_ ?_⟩⟩
  · rw [ledger_sent _ hbare]
  · rw [ledger_sent _ hbare]
    exact ⟨h.counts.writable, h.counts.tracks, h.counts.capacity⟩

theorem Running.sendAsdu (h : Running m n effects link) (asdu : Asdu) (now : Millis) :
    Goes m effects (n.sendAsdu asdu now).1
      (link.session.window.canSend = true ∧ Apdu.maxAsduLength < asdu.encode.length) := by
  cases hc : link.session.window.canSend with
  | false =>
    have hstep : (n.sendAsdu asdu now).1 = (n, []) := by
      simp only [Master.sendAsdu, h.runs, answer, Session.sendInformation_full hc, Session.Outcome.fail]
    rw [hstep]
    exact ⟨fun he => absurd he.1 Bool.false_ne_true, fun _ => h.stays.2 id⟩
  | true =>
    by_cases hlong : Apdu.maxAsduLength < asdu.encode.length
    · obtain ⟨text, ho⟩ := Session.sendInformation_tooLong hc hlong now
      have hstep : (n.sendAsdu asdu now).1 =
          n.finish { link.session with window := (link.session.window.prepareInformation now).2 } := by
        simp only [Master.sendAsdu, h.runs, answer, ho]
        rfl
      rw [hstep]
      exact ⟨fun _ => h.ends_quietly _, fun hn => absurd ⟨rfl, hlong⟩ hn⟩
    · have ho := Session.sendInformation_fits h.counts.writable hc (Nat.not_lt.1 hlong) now
      have hstep : (n.sendAsdu asdu now).1 = ({ n with link := some { link with session :=
            ({ link.session with window := (link.session.window.prepareInformation now).2 } : Session).sent } },
          [Apdu.information link.session.window.sendCount link.session.window.receiveCount asdu.encode].map
            .sent) := by
        simp only [Master.sendAsdu, h.runs, answer, ho]
        rfl
      have hl : m.ledger (effects ++ [.sent (.information link.session.window.sendCount
          link.session.window.receiveCount asdu.encode)]) =
          ⟨{ (m.ledger effects).window with sent := (m.ledger effects).window.sent + 1 },
            (m.ledger effects).taken⟩ := by
        rw [ledger_append]
        rfl
      rw [hstep]
      refine ⟨fun he => absurd he.2 hlong, fun _ => ⟨_, h.writes _ ?_ ?_⟩⟩
      · have htaken := congrArg Ledger.taken hl
        exact htaken
      · refine (congrArg Ledger.window hl).symm ▸ ⟨h.counts.writable, ?_, h.counts.capacity⟩
        exact h.counts.tracks.prepareInformation hc now

/-- A command fits into an ASDU. -/
theorem Running.request (h : Running m n effects link) (hv : m.config.parameters.validate = .ok ()) (r : Request)
    (now : Millis) : Goes m effects (n.request r now).1 False := by
  have hp : n.config.parameters.Valid := Parameters.valid_iff.1 (by rw [h.config, hv])
  obtain ⟨asdu, -, ha, -, hfits, -⟩ := r.asdu_read hp
  have hstep : n.request r now = n.sendAsdu asdu now := by
    unfold Master.request
    rw [ha]
  rw [hstep]
  exact ⟨False.elim, fun _ => (h.sendAsdu asdu now).2 fun hn => absurd hn.2 (Nat.not_lt.2 hfits)⟩

theorem Running.onTimer (h : Running m n effects link) (now : Millis) :
    Goes m effects (n.onTimer now) (link.session.t1Expired now = true) := by
  by_cases hdue : link.session.nextDeadline ≤ now
  · have hstep : n.onTimer now = n.settle link (link.session.onTimer now) := by
      simp only [Master.onTimer, h.runs, if_pos hdue]
    rw [hstep]
    cases ht : link.session.t1Expired now with
    | true =>
      rw [Session.onTimer_expired ht]
      exact ⟨fun _ => h.ends_quietly _, fun hn => absurd rfl hn⟩
    | false =>
      have hq := Session.onTimer_quiet h.counts.writable ht
      obtain ⟨u, hu⟩ := hq.ok
      have hsettle : n.settle link (link.session.onTimer now) =
          ({ n with link := some { link with session := (link.session.onTimer now).session } },
            (link.session.onTimer now).written.map .sent) := by
        simp only [settle, hu, after, sentFrames, List.append_nil]
      rw [hsettle]
      refine ⟨fun he => absurd he Bool.false_ne_true, fun _ => ⟨_, h.writes _ ?_ ?_⟩⟩
      · rw [ledger_sent _ hq.bare]
      · rw [ledger_sent _ hq.bare]
        exact hq.counts h.counts.tracks h.counts.capacity
  · have hstep : n.onTimer now = (n, []) := by
      simp only [Master.onTimer, h.runs, if_neg hdue]
    have ht := Session.t1Expired_eq_false_of_lt (Nat.lt_of_not_le hdue)
    rw [hstep, ht]
    exact ⟨fun he => absurd he Bool.false_ne_true, fun _ => h.stays.2 id⟩

/-! ## Octets -/

theorem Running.onFrame (h : Running m n effects link) (ho : Apdu.ofOctets octets = .ok frame) (now : Millis) :
    Goes m effects (after [.received octets] (n.onFrame link frame now))
      ((m.ledger effects).window.take? frame = none ∨ n.Refuses frame) := by
  cases ht : (m.ledger effects).window.take? frame with
  | none =>
    obtain ⟨session, hf⟩ := onFrame_wrong h.counts ht now
    rw [hf]
    exact ⟨fun _ => h.ends_at octets (ledger_unexpected effects ho ht) session, fun hn => absurd (.inl rfl) hn⟩
  | some i =>
    refine ⟨?_, fun hn => h.takes ho ht (fun hr => hn (.inr hr)) now⟩
    rintro (hn | hr)
    · cases hn
    · exact h.refused_ends ho ht hr now

/-- Any octets: the link takes the frames one after the other, until they are all taken or it ends. -/
theorem Running.consume (h : Running m n effects link) (bs : Octets) (now : Millis) :
    (∃ link, Running m (n.consume bs now).1 (effects ++ (n.consume bs now).2) link) ∨
      Over m (n.consume bs now).1 (effects ++ (n.consume bs now).2) := by
  induction hn : bs.length using Nat.strongRecOn generalizing n effects link bs with
  | ind k ih =>
    subst hn
    match hd : Apdu.decode bs with
    | .incomplete =>
      rw [consume_incomplete h.runs hd]
      exact .inl ⟨_, h.holds bs⟩
    | .refused fault =>
      rw [consume_refused h.runs hd]
      exact .inr (h.ends_quietly link.session)
    | .frame octets rest (.error fault) =>
      have ho : Apdu.ofOctets octets = .error fault := (Apdu.decode_content hd).symm
      rw [consume_malformed h.runs hd]
      exact .inr (h.ends_at octets (ledger_malformed effects ho) link.session)
    | .frame octets rest (.ok frame) =>
      have ho : Apdu.ofOctets octets = .ok frame := (Apdu.decode_content hd).symm
      obtain ⟨hends, hgoes⟩ := h.onFrame ho now
      rw [consume_frame h.runs hd]
      by_cases hend : (m.ledger effects).window.take? frame = none ∨ n.Refuses frame
      · have hover : Over m (n.onFrame link frame now).1 _ := hends hend
        rw [consume_none hover.closed, after, List.append_nil]
        exact .inr hover
      · obtain ⟨link', hlink'⟩ := hgoes hend
        rw [after, ← List.append_assoc]
        exact ih rest.length (Apdu.length_rest_lt hd) hlink' rest rfl

/-- What stands in front of the octets ends the link. -/
def Offends (n : Master) (i : IdealWindow) (bs : Octets) : Prop :=
  match Apdu.decode bs with
  | .incomplete => False
  | .refused _ | .frame _ _ (.error _) => True
  | .frame _ _ (.ok frame) => i.take? frame = none ∨ n.Refuses frame

/-- One more octet: it ends the link if it completes what must not come in. -/
theorem Running.octet (h : Running m n effects link) (hi : Apdu.decode link.inbound = .incomplete) (b : UInt8)
    (now : Millis) : Goes m effects (n.receive [b] now)
      (n.Offends (m.ledger effects).window (link.inbound ++ [b])) := by
  have hstep : n.receive [b] now = n.consume (link.inbound ++ [b]) now := by
    rw [receive, h.runs]
  rw [hstep, Offends]
  cases hd : Apdu.decode (link.inbound ++ [b]) with
  | incomplete =>
    rw [consume_incomplete h.runs hd]
    exact ⟨False.elim, fun _ => ⟨_, h.holds _⟩⟩
  | refused fault =>
    rw [consume_refused h.runs hd]
    exact ⟨fun _ => h.ends_quietly link.session, fun hn => absurd trivial hn⟩
  | frame octets rest content =>
    cases content with
    | error fault =>
      have ho : Apdu.ofOctets octets = .error fault := (Apdu.decode_content hd).symm
      have hend := h.ends_at octets (ledger_malformed effects ho) link.session
      rw [consume_malformed h.runs hd]
      exact ⟨fun _ => hend, fun hn => absurd trivial hn⟩
    | ok frame =>
      have ho : Apdu.ofOctets octets = .ok frame := (Apdu.decode_content hd).symm
      obtain ⟨hends, hgoes⟩ := h.onFrame ho now
      rw [consume_frame h.runs hd]
      -- The octet was the last one of the frame, so that nothing is left to be handled.
      obtain rfl := Apdu.rest_of_decode_concat hi hd
      refine ⟨fun he => ?_, fun hn => ?_⟩
      · have hover : Over m (n.onFrame link frame now).1 _ := hends he
        rw [consume_none hover.closed, after, List.append_nil]
        exact hover
      · obtain ⟨link', hlink'⟩ := hgoes hn
        have hlink' : Running m (n.onFrame link frame now).1 _ link' := hlink'
        rw [consume_incomplete hlink'.runs rfl, after, ← List.append_assoc]
        exact ⟨_, hlink'.holds []⟩

/-! ## Inputs -/

/-- What ends a link, where octets come in one at a time: a violation of the framing, a malformed frame, a frame
with wrong numbers or an ASDU that is refused; the end of the stream; a confirmation or an acknowledgement that has
not come within t1; an ASDU that does not fit into a frame; and its being closed. -/
def Ends (n : Master) (link : MasterLink) (i : IdealWindow) (now : Millis) : Input → Prop
  | .octets bs => n.Offends i (link.inbound ++ bs)
  | .endOfStream | .close => True
  | .timer => link.session.t1Expired now = true
  | .sendAsdu asdu => link.session.window.canSend = true ∧ Apdu.maxAsduLength < asdu.encode.length
  | .sendControl _ | .request _ => False

theorem Running.endOfStream (h : Running m n effects link) : Goes m effects n.endOfStream True := by
  have hstep : n.endOfStream = n.finish link.session := by
    rw [Master.endOfStream, h.runs]
  rw [hstep]
  exact ⟨fun _ => h.ends_quietly link.session, fun hn => absurd trivial hn⟩

theorem Running.close (h : Running m n effects link) : Goes m effects n.close.1 True := by
  have hstep : n.close.1 = finish { n with attached := false } link.session := by
    simp only [Master.close, h.attached, h.runs, if_true]
  rw [hstep]
  exact ⟨fun _ => (h.ends_quietly link.session).detached, fun hn => absurd trivial hn⟩

/-- An input brings one octet at most. -/
def Input.Single : Input → Prop
  | .octets bs => bs.length = 1
  | _ => True

theorem Running.apply_single (h : Running m n effects link) (hv : m.config.parameters.validate = .ok ())
    (hi : Apdu.decode link.inbound = .incomplete) (now : Millis) (input : Input) (hs : input.Single) :
    Goes m effects (n.apply now input) (n.Ends link (m.ledger effects).window now input) := by
  cases input with
  | octets bs =>
    obtain ⟨b, rfl⟩ := List.length_eq_one_iff.1 hs
    exact h.octet hi b now
  | endOfStream => exact h.endOfStream
  | timer => exact h.onTimer now
  | sendControl function => exact h.sendControl function now
  | sendAsdu asdu => exact h.sendAsdu asdu now
  | request r => exact h.request hv r now
  | close => exact h.close

end Master

end Telecontrol
