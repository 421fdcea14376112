import Telecontrol.Proofs.Codec.Chunks
import Telecontrol.Proofs.Master.Ledger

/-!
# The stream of a master

A master handles the frames of its stream one after the other, so it does not matter how their octets are
cut.

* `Master.consume_incomplete`, `Master.consume_refused`, `Master.consume_malformed`, `Master.consume_frame`:
  what stands in front of the octets.
* `Master.consume_append`, `Master.receive_append`: octets in two pieces.
* `Master.consume_splits`: the octets are the frames received and a rest.
-/

namespace Telecontrol

namespace Master

variable {m : Master} {link : MasterLink} {bs octets rest : Octets} {now : Millis} {fault : Fault}
  {frame : Apdu}

/-! ## What stands in front -/

theorem consume_none (hl : m.link = none) (bs : Octets) (now : Millis) : m.consume bs now = (m, []) := by
  rw [consume.eq_def, hl]

theorem consume_incomplete (hl : m.link = some link) (hd : Apdu.decode bs = .incomplete) (now : Millis) :
    m.consume bs now = ({ m with link := some { link with inbound := bs } }, []) := by
  rw [consume.eq_def, hl]
  dsimp only
  split <;> simp_all

theorem consume_refused (hl : m.link = some link) (hd : Apdu.decode bs = .refused fault) (now : Millis) :
    m.consume bs now = m.finish link.session := by
  rw [consume.eq_def, hl]
  dsimp only
  split <;> simp_all

theorem consume_malformed (hl : m.link = some link) (hd : Apdu.decode bs = .frame octets rest (.error fault))
    (now : Millis) : m.consume bs now = after [.received octets] (m.finish link.session) := by
  rw [consume.eq_def, hl]
  dsimp only
  split <;> simp_all

theorem consume_frame (hl : m.link = some link) (hd : Apdu.decode bs = .frame octets rest (.ok frame))
    (now : Millis) : m.consume bs now =
      after (.received octets :: (m.onFrame link frame now).2)
        ((m.onFrame link frame now).1.consume rest now) := by
  rw [consume.eq_def, hl]
  dsimp only
  split <;> simp_all

/-! ## Pieces -/

/-- The master with other octets that do not make a frame yet. -/
def holding (m : Master) (bs : Octets) : Master :=
  { m with link := m.link.map fun link => { link with inbound := bs } }

theorem deliver_holding (m : Master) (link : MasterLink) (bs : Octets) (asdu : Asdu) :
    (m.holding bs).deliver { link with inbound := bs } asdu =
      ((m.deliver link asdu).1.holding bs, (m.deliver link asdu).2) := by
  unfold deliver
  cases ha : m.answers with
  | none =>
    have hb : (m.holding bs).answers = none := ha
    rw [hb]
    rfl
  | some answers =>
    have hb : (m.holding bs).answers = some answers := ha
    rw [hb]
    dsimp only
    cases answers.headD true <;> rfl

theorem onInbound_holding (m : Master) (link : MasterLink) (bs : Octets) (inbound : Inbound) :
    (m.holding bs).onInbound { link with inbound := bs } inbound =
      ((m.onInbound link inbound).1.holding bs, (m.onInbound link inbound).2) := by
  cases inbound with
  | asdu octets =>
    have hconfig : (m.holding bs).config = m.config := rfl
    simp only [onInbound, hconfig]
    cases Asdu.parse m.config.parameters octets with
    | error fault => rfl
    | ok asdu => exact deliver_holding m link bs asdu
  | control function => cases function <;> rfl
  | handled => rfl

theorem onFrame_holding (m : Master) (link : MasterLink) (bs : Octets) (frame : Apdu) (now : Millis) :
    (m.holding bs).onFrame { link with inbound := bs } frame now =
      ((m.onFrame link frame now).1.holding bs, (m.onFrame link frame now).2) := by
  unfold onFrame
  dsimp only
  cases (link.session.receive frame now).result with
  | error fault => rfl
  | ok inbound =>
    dsimp only
    rw [onInbound_holding m { link with session := (link.session.receive frame now).session } bs inbound]
    rfl

theorem holding_none (hl : m.link = none) (held : Octets) : m.holding held = m := by
  rw [holding, hl, Option.map_none, ← hl]

theorem link_holding (hl : m.link = some link) (held : Octets) :
    (m.holding held).link = some { link with inbound := held } := by
  rw [holding, hl]
  rfl

/-- The octets that are handled are given in full: it does not matter which ones the master held. -/
theorem consume_holding (hl : m.link = some link) (held bs : Octets) (now : Millis) :
    (m.holding held).consume bs now = m.consume bs now := by
  induction hn : bs.length using Nat.strongRecOn generalizing m link bs with
  | ind n ih =>
    subst hn
    have hh := link_holding hl held
    match hd : Apdu.decode bs with
    | .incomplete =>
      rw [consume_incomplete hh hd, consume_incomplete hl hd]
      rfl
    | .refused fault =>
      rw [consume_refused hh hd, consume_refused hl hd]
      rfl
    | .frame octets rest (.error fault) =>
      rw [consume_malformed hh hd, consume_malformed hl hd]
      rfl
    | .frame octets rest (.ok frame) =>
      rw [consume_frame hh hd, consume_frame hl hd, onFrame_holding]
      dsimp only
      cases hl' : (m.onFrame link frame now).1.link with
      | none => rw [holding_none hl']
      | some link' => rw [ih rest.length (Apdu.length_rest_lt hd) hl' rest rfl]

theorem consume_append (m : Master) (bs more : Octets) (now : Millis) :
    m.consume (bs ++ more) now =
      after (m.consume bs now).2 ((m.consume bs now).1.receive more now) := by
  induction hn : bs.length using Nat.strongRecOn generalizing m bs with
  | ind n ih =>
    subst hn
    cases hl : m.link with
    | none =>
      rw [consume_none hl, consume_none hl, receive, hl]
      rfl
    | some link =>
      match hd : Apdu.decode bs with
      | .incomplete =>
        have hheld : { m with link := some { link with inbound := bs } } = m.holding bs := by
          rw [holding, hl]
          rfl
        have hr : (m.holding bs).receive more now = (m.holding bs).consume (bs ++ more) now := by
          rw [receive, link_holding hl]
        rw [consume_incomplete hl hd, hheld]
        dsimp only
        rw [hr, consume_holding hl]
        rfl
      | .refused fault =>
        rw [consume_refused hl hd, consume_refused hl (Apdu.decode_refused_append hd more)]
        rfl
      | .frame octets rest (.error fault) =>
        rw [consume_malformed hl hd, consume_malformed hl (Apdu.decode_frame_append hd more)]
        rfl
      | .frame octets rest (.ok frame) =>
        rw [consume_frame hl hd, consume_frame hl (Apdu.decode_frame_append hd more),
          ih rest.length (Apdu.length_rest_lt hd) _ _ rfl]
        simp only [after, List.cons_append, List.append_assoc]

/-- It does not matter how the octets that come in are cut. -/
theorem receive_append (m : Master) (bs more : Octets) (now : Millis) :
    m.receive (bs ++ more) now = after (m.receive bs now).2 ((m.receive bs now).1.receive more now) := by
  cases hl : m.link with
  | none => simp only [receive, hl, after, List.append_nil]
  | some link =>
    have hr (octets : Octets) : m.receive octets now = m.consume (link.inbound ++ octets) now := by
      rw [receive, hl]
    rw [hr, hr, ← List.append_assoc, consume_append]

/-! ## Frames and a rest -/

theorem framesIn_deliver (m : Master) (link : MasterLink) (asdu : Asdu) :
    framesIn (m.deliver link asdu).2 = [] := by
  unfold deliver
  split
  · rfl
  · dsimp only
    split <;> rfl

theorem framesIn_onInbound (m : Master) (link : MasterLink) (inbound : Inbound) :
    framesIn (m.onInbound link inbound).2 = [] := by
  unfold onInbound
  split
  · split
    · exact framesIn_deliver m link _
    · rfl
  · rfl
  · rfl
  · rfl
  · rfl

theorem framesIn_onFrame (m : Master) (link : MasterLink) (frame : Apdu) (now : Millis) :
    framesIn (m.onFrame link frame now).2 = [] := by
  simp only [onFrame, after, framesIn_append, sentFrames, framesIn_sent, List.nil_append]
  split
  · exact framesIn_onInbound _ _ _
  · rfl

/-- What is left of the octets makes no frame yet, as long as the link runs. -/
theorem consume_splits (m : Master) (bs : Octets) (now : Millis) :
    ∃ rest, bs = (framesIn (m.consume bs now).2).flatten ++ rest ∧
      ∀ link, (m.consume bs now).1.link = some link →
        link.inbound = rest ∧ Apdu.decode rest = .incomplete := by
  induction hn : bs.length using Nat.strongRecOn generalizing m bs with
  | ind n ih =>
    subst hn
    cases hl : m.link with
    | none =>
      rw [consume_none hl]
      refine ⟨bs, rfl, fun link h => ?_⟩
      rw [hl] at h
      cases h
    | some link =>
      match hd : Apdu.decode bs with
      | .incomplete =>
        rw [consume_incomplete hl hd]
        refine ⟨bs, rfl, fun link h => ?_⟩
        cases h
        exact ⟨rfl, hd⟩
      | .refused fault =>
        rw [consume_refused hl hd]
        exact ⟨bs, rfl, nofun⟩
      | .frame octets rest (.error fault) =>
        rw [consume_malformed hl hd]
        refine ⟨rest, ?_, nofun⟩
        rw [(Apdu.decode_frame hd).2.1]
        simp [after, finish, framesIn]
      | .frame octets rest (.ok frame) =>
        obtain ⟨rest', hrest, hend⟩ :=
          ih rest.length (Apdu.length_rest_lt hd) (m.onFrame link frame now).1 rest rfl
        rw [consume_frame hl hd]
        refine ⟨rest', ?_, hend⟩
        have hframes : framesIn (.received octets :: (m.onFrame link frame now).2) = [octets] :=
          congrArg (octets :: ·) (framesIn_onFrame m link frame now)
        rw [after, framesIn_append, hframes, (Apdu.decode_frame hd).2.1, List.flatten_append,
          List.flatten_singleton, List.append_assoc, ← hrest]

end Master

end Telecontrol
