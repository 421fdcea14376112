import Telecontrol.Proofs.Outstation.View

/-!
# I-frames come after a confirmed start

A connection writes no I-frame before it has confirmed a start of the data transfer, and none after it has
confirmed a stop until the next start.

* `Outstation.frames`: what was written on a connection.
* `Outstation.Started`, `Outstation.Gated`: what is to hold of the frames of a connection.
* `Outstation.Gate`: the invariant, which also tells what was confirmed where a task stands.
  `Outstation.Gate.view`: every change keeps it.
* `Outstation.View.sent_information`: a connection writes an I-frame only for an ASDU that its task takes.
-/

namespace Telecontrol

namespace Outstation

/-- The frames that were written on a connection. -/
def frames (id : Nat) (effects : List StationEffect) : List Apdu :=
  effects.filterMap fun
    | .sent i frame => if i = id then some frame else none
    | _ => none

/-- A start of the data transfer has been confirmed, and no stop since. -/
def Started (frames : List Apdu) : Prop :=
  ∃ early late, frames = early ++ .unnumbered .startCon :: late ∧ .unnumbered .stopCon ∉ late

/-- No I-frame is written before a start of the data transfer was confirmed, or after a stop. -/
def Gated (frames : List Apdu) : Prop :=
  ∀ before f, before ++ [f] <+: frames → f.apci.isInformation = true → Started before

section

variable {id : Nat} {effects more : List StationEffect} {fs gs : List Apdu} {f : Apdu}

theorem frames_append (effects more : List StationEffect) :
    frames id (effects ++ more) = frames id effects ++ frames id more :=
  List.filterMap_append

theorem frames_sentFrames {α : Type} (id : Nat) (outcome : Session.Outcome α) :
    frames id (sentFrames id outcome) = outcome.written := by
  simp [frames, sentFrames, List.filterMap_map]

theorem Started.append (h : Started fs) (hg : .unnumbered .stopCon ∉ gs) : Started (fs ++ gs) := by
  obtain ⟨early, late, rfl, hl⟩ := h
  refine ⟨early, late ++ gs, ?_, ?_⟩
  · rw [List.append_assoc, List.cons_append]
  · rw [List.mem_append]
    exact not_or.2 ⟨hl, hg⟩

theorem started_concat (fs : List Apdu) : Started (fs ++ [.unnumbered .startCon]) :=
  ⟨fs, [], rfl, List.not_mem_nil⟩

theorem gated_nil : Gated [] :=
  fun _ _ hp => absurd (List.prefix_nil.1 hp) (List.append_ne_nil_of_right_ne_nil _ nofun)

theorem Gated.concat (h : Gated fs) (hf : f.apci.isInformation = true → Started fs) :
    Gated (fs ++ [f]) := by
  intro before g hp hg
  rw [List.prefix_concat_iff, List.append_singleton_inj] at hp
  obtain ⟨rfl, rfl⟩ | hp := hp
  · exact hf hg
  · exact h before g hp hg

theorem Gated.append (h : Gated fs) (hg : ∀ g ∈ gs, g.apci.isInformation = false) :
    Gated (fs ++ gs) := by
  induction gs using List.reverseRecOn with
  | nil => rwa [List.append_nil]
  | append_singleton gs g ih =>
    rw [← List.append_assoc]
    refine (ih fun g hm => hg g (List.mem_append_left _ hm)).concat fun hi => ?_
    rw [hg g (List.mem_append_right _ (List.mem_singleton_self g))] at hi
    cases hi

/-- Once the start is confirmed, I-frames may be written until a stop is. -/
theorem Gated.append_of_started (h : Gated fs) (hs : Started fs) (hg : ∀ g ∈ gs, g ≠ .unnumbered .stopCon) :
    Gated (fs ++ gs) := by
  induction gs using List.reverseRecOn with
  | nil => rwa [List.append_nil]
  | append_singleton gs g ih =>
    have hg' : ∀ g ∈ gs, g ≠ .unnumbered .stopCon := fun g hm => hg g (List.mem_append_left _ hm)
    rw [← List.append_assoc]
    exact (ih hg').concat fun _ => hs.append fun hm => hg' _ hm rfl

end

/-! ## When I-frames are written -/

section

variable {o : Outstation} {now : Millis} {id : Nat} {c c' : StationConnection}
  {found found' : Option StationConnection} {effects more : List StationEffect} {fs gs : List Apdu}
  {active : Bool} {point : TaskPoint}

/-- What has been confirmed where a task stands. -/
structure Ready (fs : List Apdu) (active : Bool) (point : TaskPoint) : Prop where
  sending : point = .sending → Started fs
  stopping : point = .confirming .stopCon → active = false
  started : active = true → Started fs ∨ point = .confirming .startCon

theorem Ready.mono (h : Ready fs active point) (hs : Started fs → Started gs) : Ready gs active point :=
  ⟨fun hp => hs (h.sending hp), h.stopping, fun ha => (h.started ha).imp_left hs⟩

theorem Ready.deactivate (h : Ready fs active point) : Ready fs false point :=
  ⟨h.sending, fun _ => rfl, nofun⟩

/-- At most points of a task nothing else matters. -/
theorem ready_of_started (hs : active = true → Started fs) (hp : point ≠ .sending)
    (hc : point ≠ .confirming .stopCon) : Ready fs active point :=
  ⟨fun h => absurd h hp, fun h => absurd h hc, fun ha => .inl (hs ha)⟩

/-- The frames of a connection and where its task stands. -/
structure Gate (fs : List Apdu) (found : Option StationConnection) : Prop where
  gated : Gated fs
  serving : ∀ c, found = some c → c.active = true → ∃ link, c.phase = .serving link
  ready : ∀ c link, found = some c → c.phase = .serving link → Ready fs c.active link.point

theorem frames_eq_nil (h : ∀ f, .sent id f ∉ more) : frames id more = [] := by
  refine List.filterMap_eq_nil_iff.2 fun e he => ?_
  cases e with
  | sent i frame => exact if_neg fun hi => h frame (by rwa [← hi])
  | _ => rfl

theorem frames_of_subject (h : ∀ e ∈ more, e.subject ≠ some id) : frames id more = [] :=
  frames_eq_nil fun _ hf => h _ hf rfl

theorem frames_activated {displaced : List StationEffect} (h : ∀ e ∈ displaced, e.subject ≠ some id) :
    frames id (displaced ++ [.event id .activated]) = [] := by
  rw [frames_append, frames_of_subject h]
  rfl

theorem frames_displaced (h : ∀ e ∈ more, e.subject = some id → e = .event id .deactivated) :
    frames id more = [] :=
  frames_eq_nil fun _ hf => by cases h _ hf rfl

theorem frames_admitted {asked : List StationEffect} (h : asked = [] ∨ asked = [.asked]) :
    frames id (asked ++ [.admitted id]) = [] := by
  obtain rfl | rfl := h
  · rfl
  · rfl

/-- What a task writes when it begins something has nothing to do with the data transfer. -/
theorem frames_begins (h : c.Begins o now more c') : ∀ f ∈ frames c.id more,
    f.apci.isInformation = false ∧ f ≠ .unnumbered .stopCon := by
  cases h with
  | ended hc hp he s => cases he <;> exact nofun
  | @frame link octets rest frame inbound hc hp hd hr =>
    have hf : frames c.id (.received c.id octets :: sentFrames c.id (link.session.receive frame now)) =
        (link.session.receive frame now).written := frames_sentFrames _ _
    rw [hf]
    exact Session.writes_receive (fun r => ⟨rfl, nofun⟩) ⟨rfl, nofun⟩
  | timers =>
    rw [frames_sentFrames]
    exact Session.writes_onTimer (fun r => ⟨rfl, nofun⟩) ⟨rfl, nofun⟩
  | _ => exact nofun

theorem Gate.begins (h : Gate fs (some c)) (hb : c.Begins o now more c') :
    Gate (fs ++ frames c.id more) (some c') := by
  have hg := frames_begins hb
  have hs : Started fs → Started (fs ++ frames c.id more) :=
    fun hs => hs.append fun hm => (hg _ hm).2 rfl
  refine ⟨h.gated.append fun f hf => (hg f hf).1, ?_, ?_⟩
  · rintro _ ⟨⟩
    exact hb.keeps.serving (h.serving c rfl)
  · rintro _ link ⟨⟩ hl
    -- while a task waits, its connection has been started if it is active
    have hw {link : StationLink} (hc : c.phase = .serving link) (hp : link.point = .waiting)
        (ha : c.active = true) : Started (fs ++ frames c.id more) := by
      refine hs (((h.ready c link rfl hc).started ha).resolve_right ?_)
      rw [hp]
      exact nofun
    cases hb with
    | secured hc =>
      cases hl
      refine ready_of_started (fun ha => ?_) nofun nofun
      obtain ⟨link, hl⟩ := h.serving c rfl ha
      rw [hl] at hc
      cases hc
    | abandoned => cases hl
    | ended => cases hl
    | stream hc hp =>
      cases hl
      rw [hp]
      exact (h.ready c _ rfl hc).mono hs
    | frame hc hp => cases hl; exact ready_of_started (hw hc hp) nofun nofun
    | response hc hp => cases hl; exact ready_of_started (hw hc hp) nofun nofun
    | woken hc hp => cases hl; exact ready_of_started (hw hc hp) nofun nofun
    | timers hc hp => cases hl; exact ready_of_started (hw hc hp) nofun nofun
    | handed => exact (h.ready c link rfl hl).mono hs
    | asked =>
      rw [c.active_ask]
      exact (h.ready c link rfl (c.phase_ask _ ▸ hl)).mono hs

theorem point_of_nextAsdu? {link link' : StationLink} {queue queue' : OutboundQueue} {source : Source}
    {asdu : Asdu} (h : nextAsdu? link queue = some (source, asdu, link', queue')) :
    link'.point = link.point := by
  obtain ⟨_, -, -, rfl, -⟩ | ⟨_, -, -, -, rfl, -⟩ := nextAsdu?_eq_some h
  · rfl
  · rfl

theorem Gate.proceeds {queue : OutboundQueue} (h : Gate fs (some c))
    (hp : c.Proceeds o now more c' queue) : Gate (fs ++ frames c.id more) (some c') := by
  have hserving : ∀ d, some c' = some d → d.active = true → ∃ link, d.phase = .serving link := by
    rintro _ ⟨⟩
    exact hp.keeps.serving (h.serving c rfl)
  -- where nothing is written, only the point matters
  have silent (hf : frames c.id more = [])
      (hr : ∀ link, c'.phase = .serving link → Ready fs c'.active link.point) :
      Gate (fs ++ frames c.id more) (some c') := by
    rw [hf, List.append_nil]
    exact ⟨h.gated, hserving, by rintro _ link ⟨⟩ hl; exact hr link hl⟩
  have hstarted {link : StationLink} (hc : c.phase = .serving link)
      (hp : link.point ≠ .confirming .startCon) (ha : c.active = true) : Started fs :=
    ((h.ready c link rfl hc).started ha).resolve_right hp
  cases hp with
  | ignored hc hp =>
    refine silent rfl fun link hl => ?_
    cases hl
    exact ready_of_started (hstarted hc (by rw [hp]; exact nofun)) nofun nofun
  | @dispatched link octets asdu hc hp ha hd =>
    have hr := StationConnection.isRegistered_of_link hc
    refine silent (filterMap_dispatched ha hr (fun _ => rfl) (fun _ _ => rfl) fun _ => rfl)
      fun link hl => ?_
    cases hl
    exact ready_of_started (fun _ => hstarted hc (by rw [hp]; exact nofun) ha) nofun nofun
  | restarted hc hp =>
    refine silent rfl fun link hl => ?_
    cases hl
    exact ⟨nofun, nofun, fun _ => .inr rfl⟩
  | stopped hc hp =>
    refine silent (by split <;> rfl) fun link hl => ?_
    cases hl
    exact ⟨nofun, fun _ => rfl, nofun⟩
  | active hc hp ha =>
    refine silent rfl fun link hl => ?_
    cases hl
    have hs := hstarted hc (by rw [hp]; exact nofun) ha
    exact ⟨fun _ => hs, nofun, fun _ => .inl hs⟩
  | inactive hc hp ha =>
    refine silent rfl fun link hl => ?_
    cases hl
    exact ready_of_started (fun ha' => absurd (ha.symm.trans ha') Bool.false_ne_true) nofun nofun
  | rested hc hp =>
    refine silent rfl fun link hl => ?_
    cases hl
    exact ready_of_started (fun _ => (h.ready c _ rfl hc).sending hp) nofun nofun
  | unconfirmed => exact silent rfl nofun
  | unsent => exact silent rfl nofun
  | @confirmed link function hc hp hr =>
    rw [frames_sentFrames, Session.sendControl_written hr]
    refine ⟨h.gated.concat nofun, hserving, ?_⟩
    rintro _ _ ⟨⟩ ⟨⟩
    refine ready_of_started (fun ha => ?_) nofun nofun
    by_cases hf : function = .startCon
    · rw [hf]
      exact started_concat fs
    · refine (hstarted hc (by rw [hp]; simpa using hf) ha).append fun hm => ?_
      -- a connection that confirms a stop is not active
      cases List.mem_singleton.1 hm
      exact absurd (((h.ready c link rfl hc).stopping hp).symm.trans ha) Bool.false_ne_true
  | @sent link link' source asdu queue hc hp hs hn hr =>
    have hstarted := (h.ready c link rfl hc).sending hp
    have hw : ∀ f ∈ (link'.session.sendInformation asdu.encode now).written,
        f ≠ .unnumbered .stopCon := Session.writes_sendInformation fun _ _ => nofun
    have hf : frames c.id (.taken c source asdu ::
        sentFrames c.id (link'.session.sendInformation asdu.encode now)) =
          (link'.session.sendInformation asdu.encode now).written := frames_sentFrames _ _
    rw [hf]
    have hstarted' := hstarted.append fun hm => hw _ hm rfl
    refine ⟨h.gated.append_of_started hstarted hw, hserving, ?_⟩
    rintro _ _ ⟨⟩ ⟨⟩
    have hp' : link'.point = .sending := (point_of_nextAsdu? hn).trans hp
    refine ⟨fun _ => hstarted', fun hs => ?_, fun _ => .inl hstarted'⟩
    rw [hp'] at hs
    cases hs

theorem Gate.view (h : Gate (frames id effects) found) (hv : View o now id found more found') :
    Gate (frames id (effects ++ more)) found' := by
  rw [frames_append]
  cases hv with
  | other he => rwa [frames_of_subject he, List.append_nil]
  | admitted ha peer deadline =>
    rw [frames_admitted ha, List.append_nil]
    exact ⟨h.gated, by rintro _ ⟨⟩ ⟨⟩, by rintro _ _ ⟨⟩ ⟨⟩⟩
  | begins hi hb =>
    subst hi
    exact h.begins hb
  | proceeds hi hp =>
    subst hi
    exact h.proceeds hp
  | @activated c link displaced hi hl hp ha he =>
    rw [frames_activated he, List.append_nil]
    refine ⟨h.gated, ?_, ?_⟩
    · rintro _ ⟨⟩ -
      exact ⟨_, rfl⟩
    · rintro _ _ ⟨⟩ ⟨⟩
      exact ⟨nofun, nofun, fun _ => .inr rfl⟩
  | @displaced c _ hi ha _ he =>
    rw [frames_displaced he, List.append_nil]
    refine ⟨h.gated, ?_, ?_⟩
    · rintro _ ⟨⟩ ⟨⟩
    · rintro _ link ⟨⟩ hl
      exact (h.ready c link rfl hl).deactivate

theorem gate_interleave (config : OutstationConfig) (handlers : Handlers)
    (moves : List (Millis × Move)) (id : Nat) :
    let step := (create config handlers).interleave moves
    Gate (frames id step.2) (step.1.connection? id) :=
  view_induction (P := fun effects found => Gate (frames id effects) found) id
    ⟨gated_nil, (fun _ hc => nomatch hc), (fun _ _ hc => nomatch hc)⟩ (fun _ _ _ _ _ _ h hv => h.view hv)
    config handlers moves

/-- An I-frame is written only for an ASDU that the task takes while it sends. -/
theorem View.sent_information (hv : View o now id found more found') :
    (∀ f ∈ frames id more, f.apci.isInformation = false) ∨
      ∃ c link source asdu n r, found = some c ∧ c.id = id ∧ c.phase = .serving link ∧
        link.point = .sending ∧
        more = [.taken c source asdu, .sent id (.information n r asdu.encode)] := by
  have hnil (h : frames id more = []) : ∀ f ∈ frames id more, f.apci.isInformation = false := by
    rw [h]
    exact List.forall_mem_nil _
  cases hv with
  | other he => exact .inl (hnil (frames_of_subject he))
  | admitted ha => exact .inl (hnil (frames_admitted ha))
  | activated hi hl hp ha he => exact .inl (hnil (frames_activated he))
  | displaced hi ha hm he => exact .inl (hnil (frames_displaced he))
  | begins hi hb =>
    subst hi
    exact .inl fun f hf => (frames_begins hb f hf).1
  | @proceeds c _ _ _ hi hp =>
    subst hi
    cases hp with
    | @dispatched link octets asdu hc hp ha hd =>
      exact .inl (hnil (filterMap_dispatched ha (StationConnection.isRegistered_of_link hc)
        (fun _ => rfl) (fun _ _ => rfl) fun _ => rfl))
    | stopped => exact .inl (hnil (by split <;> rfl))
    | confirmed hc hp hr =>
      rw [frames_sentFrames, Session.sendControl_written hr]
      exact .inl (List.forall_mem_singleton.2 rfl)
    | @sent link link' source asdu queue hc hp hs hn hr =>
      refine .inr ⟨c, link, source, asdu, link'.session.window.sendCount,
        link'.session.window.receiveCount, rfl, rfl, hc, hp, ?_⟩
      rw [sentFrames, Session.sendInformation_written hr]
      rfl
    | _ => exact .inl (hnil rfl)

end

end Outstation

end Telecontrol
