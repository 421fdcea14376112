import Telecontrol.Proofs.Outstation.Active

/-!
# Tasks that are not interrupted

In a run no task is interrupted before it waits again. So between two turns all tasks wait, and an ASDU
is only taken on the active connection.

* `Outstation.Rested`: all tasks wait. `Outstation.Settling`: one of them has some way to go.
* `Outstation.Settling.proceed`: its way gets shorter with every move.
* `Outstation.Orderly`: what holds of a connection when its task takes an ASDU.
* `Outstation.rested_run`: both hold of all runs.
-/

namespace Telecontrol

namespace Outstation

variable {o o' : Outstation} {now : Millis} {id n : Nat} {c c' : StationConnection}
  {effects : List StationEffect}

/-- No task is in the middle of something. -/
def Rested (o : Outstation) : Prop :=
  ∀ id c link, o.connection? id = some c → c.phase = .serving link → link.point = .waiting

/-- The task of the connection `id` waits after at most `n` moves, and all others wait. -/
structure Settling (o : Outstation) (id n : Nat) : Prop where
  others : ∀ j ≠ id, ∀ c link, o.connection? j = some c → c.phase = .serving link →
    link.point = .waiting
  steps : ∀ c link, o.connection? id = some c → c.phase = .serving link →
    stepsLeft link o.queue.size ≤ n
  active : ∀ c link, o.connection? id = some c → c.phase = .serving link →
    link.point = .sending → c.active = true

/-- Whoever takes an ASDU is active and has room in its window; data from the queue are only taken when
no response waits. -/
def Orderly (effects : List StationEffect) : Prop :=
  ∀ c source asdu, .taken c source asdu ∈ effects → c.active = true ∧
    ∃ link, c.phase = .serving link ∧ link.session.window.canSend = true ∧
      (source = .queue → link.outbox = [])

theorem Orderly.append {more : List StationEffect} (h : Orderly effects) (hm : Orderly more) :
    Orderly (effects ++ more) := by
  intro c source asdu he
  rcases List.mem_append.1 he with he | he
  · exact h c source asdu he
  · exact hm c source asdu he

theorem orderly_nil : Orderly [] := fun _ _ _ he => absurd he List.not_mem_nil

theorem orderly_of_plain (h : ∀ e ∈ effects, e.Plain) : Orderly effects := by
  intro c source asdu he
  cases h _ he

/-! ## While a task goes on -/

theorem Settling.rested (h : o.Settling id 0) : o.Rested := by
  intro j c link hc hl
  by_cases hj : j = id
  · have hs := h.steps c link (hj ▸ hc) hl
    unfold stepsLeft at hs
    cases hp : link.point with
    | waiting => rfl
    | _ =>
      rw [hp] at hs
      exact absurd hs (Nat.not_succ_le_zero _)
  · exact h.others j hj c link hc hl

theorem Settling.put (h : o.Settling id n) (queue : OutboundQueue) (hc : o.connection? id = some c)
    (hi : c'.id = c.id) {m : Nat}
    (hs : ∀ link, c'.phase = .serving link → stepsLeft link queue.size ≤ m)
    (ha : ∀ link, c'.phase = .serving link → link.point = .sending → c'.active = true) :
    Settling ({ o with queue }.put c') id m := by
  have hput {j : Nat} {d : StationConnection}
      (hd : ({ o with queue }.put c').connection? j = some d) :
      j = id ∧ d = c' ∨ j ≠ id ∧ o.connection? j = some d :=
    connection?_put_cases (o := { o with queue }) hc hi hd
  refine ⟨?_, ?_, ?_⟩
  · intro j hj d link hd hl
    obtain ⟨rfl, -⟩ | ⟨-, hd⟩ := hput hd
    · exact absurd rfl hj
    · exact h.others j hj d link hd hl
  · intro d link hd hl
    obtain ⟨-, rfl⟩ | ⟨hj, -⟩ := hput hd
    · exact hs link hl
    · exact absurd rfl hj
  · intro d link hd hl
    obtain ⟨-, rfl⟩ | ⟨hj, -⟩ := hput hd
    · exact ha link hl
    · exact absurd rfl hj

theorem stepsLeft_proceeds {queue : OutboundQueue} (h : c.Proceeds o now effects c' queue)
    (hn : ∀ link, c.phase = .serving link → stepsLeft link o.queue.size ≤ n + 1)
    {link : StationLink} (hl : c'.phase = .serving link) : stepsLeft link queue.size ≤ n := by
  cases h with
  | ignored hc hp | restarted hc hp | stopped hc hp | confirmed hc hp | active hc hp =>
    have := hn _ hc
    cases hl
    simp only [stepsLeft, hp] at this ⊢
    omega
  | @dispatched _ _ asdu hc hp ha hd =>
    have := hn _ hc
    cases hl
    -- the reply is one more response to send
    have hr := Option.length_toList_le (o := (o.handlers.dispatch asdu).reply)
    simp only [stepsLeft, hp, List.length_append] at this ⊢
    omega
  | sent hc hp hs hq =>
    have := hn _ hc
    cases hl
    obtain ⟨later, ho, -, rfl, rfl⟩ | ⟨later, ho, hi, -, rfl, rfl⟩ := nextAsdu?_eq_some hq
    · simp only [stepsLeft, hp, ho, List.length_cons] at this ⊢
      omega
    · simp only [stepsLeft, hp, ho, OutboundQueue.size, hi, List.length_cons] at this ⊢
      omega
  | inactive | rested =>
    cases hl
    exact Nat.zero_le _
  | unconfirmed | unsent => cases hl

theorem active_proceeds {queue : OutboundQueue} (h : c.Proceeds o now effects c' queue)
    (ha : ∀ link, c.phase = .serving link → link.point = .sending → c.active = true)
    {link : StationLink} (hl : c'.phase = .serving link) (hp : link.point = .sending) :
    c'.active = true := by
  cases h with
  | active hc hp' ha' => exact ha'
  | sent hc hp' => exact ha _ hc hp'
  | unconfirmed | unsent => cases hl
  | _ => cases hl; cases hp

theorem orderly_proceeds {queue : OutboundQueue} (h : c.Proceeds o now effects c' queue)
    (ha : ∀ link, c.phase = .serving link → link.point = .sending → c.active = true) :
    Orderly effects := by
  obtain ⟨h, -⟩ | ⟨link, source, asdu, link', more, hl, hp, hs, hn, rfl, hm⟩ := h.plain_or_takes
  · exact orderly_of_plain h
  · have ht : Orderly [.taken c source asdu] := by
      intro d source' asdu' he
      cases List.mem_singleton.1 he
      refine ⟨ha link hl hp, link, hl, hs, ?_⟩
      rintro rfl
      obtain ⟨_, _, hs, _⟩ | ⟨_, ho, _⟩ := nextAsdu?_eq_some hn
      · cases hs
      · exact ho
    exact ht.append (orderly_of_plain hm)

theorem Settling.activate (h : o.Settling id n) (hc : o.connection? id = some c)
    {link : StationLink} (hl : c.phase = .serving link)
    (hs : stepsLeft link o.queue.size ≤ n) : (o.activate id).1.Settling id n := by
  refine ⟨?_, ?_, ?_⟩
  · intro j hj d link' hd hl'
    rw [connection?_activate, Option.map_eq_some_iff] at hd
    obtain ⟨x, hx, rfl⟩ := hd
    rw [afterActivation_phase] at hl'
    exact h.others j hj x link' hx hl'
  · intro d link' hd hl'
    rw [connection?_activate, hc] at hd
    obtain rfl := Option.some.inj hd
    rw [afterActivation_phase, hl] at hl'
    cases hl'
    exact hs
  · intro d link' hd _ _
    rw [connection?_activate, hc] at hd
    obtain rfl := Option.some.inj hd
    rw [afterActivation, if_pos (id_of_connection? hc)]

/-- A task comes closer to its end with every move. -/
theorem Settling.proceed (h : o.Settling id (n + 1)) (hp : ProceedsAt o now id effects o') :
    o'.Settling id n ∧ Orderly effects := by
  cases hp with
  | waits hw =>
    refine ⟨⟨h.others, fun c link hc hl => ?_, h.active⟩, orderly_nil⟩
    rw [stepsLeft, hw c link hc hl]
    exact Nat.zero_le n
  | proceeds hc hp =>
    refine ⟨h.put _ hc hp.keeps.id ?_ ?_, ?_⟩
    · exact fun link hl => stepsLeft_proceeds hp (h.steps _ · hc) hl
    · exact fun link hl => active_proceeds hp (h.active _ · hc) hl
    · exact orderly_proceeds hp (h.active _ · hc)
  | @activated c link hc hl hp ha =>
    obtain rfl := id_of_connection? hc
    have hs : stepsLeft { link with point := .confirming .startCon } o.queue.size ≤ n := by
      have := h.steps c link hc hl
      simp only [stepsLeft, hp] at this ⊢
      omega
    have hput : (o.put (c.withLink { link with point := .confirming .startCon })).Settling c.id n := by
      refine h.put o.queue hc (rfl : (c.withLink _).id = c.id) (fun link' hl' => ?_)
        (fun link' hl' hp' => ?_)
      · cases hl'
        exact hs
      · cases hl'
        cases hp'
    exact ⟨hput.activate (connection?_put hc rfl) rfl hs, orderly_of_plain (plain_activate _ _)⟩

theorem Settling.iterate (h : o.Settling id n) (now : Millis) :
    (iterate (·.proceed id now) n o).1.Rested ∧ Orderly (iterate (·.proceed id now) n o).2 := by
  induction n generalizing o with
  | zero => exact ⟨h.rested, orderly_nil⟩
  | succ n ih =>
    obtain ⟨h', ho⟩ := h.proceed (proceedsAt_proceed o id now)
    obtain ⟨hr, ho'⟩ := ih h'
    exact ⟨hr, ho.append ho'⟩

/-- A task that no one interrupts goes on until it waits. -/
theorem rested_settle (others : ∀ j ≠ id, ∀ c link, o.connection? j = some c →
      c.phase = .serving link → link.point = .waiting)
    (hs : ∀ c link, o.connection? id = some c → c.phase = .serving link →
      link.point = .sending → c.active = true) (now : Millis) :
    (o.settle id now).1.Rested ∧ Orderly (o.settle id now).2 := by
  refine Settling.iterate ⟨others, fun c link hc hl => ?_, hs⟩ now
  simp only [hc, Option.bind_some, StationConnection.link?, hl, Option.elim_some, Nat.le_refl]

/-! ## Turns -/

theorem Rested.put (h : o.Rested) (hc : o.connection? id = some c) (hi : c'.id = c.id)
    (hp : ∀ link, c'.phase = .serving link → link.point = .waiting) : (o.put c').Rested := by
  intro j d link hd hl
  obtain ⟨-, rfl⟩ | ⟨-, hd⟩ := connection?_put_cases hc hi hd
  · exact hp link hl
  · exact h j d link hd hl

theorem not_sending_begins (h : c.Begins o now effects c')
    (hw : ∀ link, c.phase = .serving link → link.point = .waiting) {link : StationLink}
    (hl : c'.phase = .serving link) : link.point ≠ .sending := by
  cases h with
  | stream hc hp =>
    cases hl
    simp [hp, hw _ hc]
  | handed =>
    rw [hw link hl]
    nofun
  | asked =>
    rw [hw link (c.phase_ask _ ▸ hl)]
    nofun
  | abandoned | ended => cases hl
  | _ => cases hl; nofun

/-- When a task has begun something, it is the only one that does not wait. -/
theorem Rested.settle (h : o.Rested) (hb : BeginsAt o now id effects o') :
    (o'.settle id now).1.Rested ∧ Orderly (effects ++ (o'.settle id now).2) := by
  cases hb with
  | idle =>
    have hs : ∀ c link, o.connection? id = some c → c.phase = .serving link →
        link.point = .sending → c.active = true := by
      intro c link hc hl hp
      rw [h id c link hc hl] at hp
      cases hp
    exact rested_settle (fun j _ => h j) hs now
  | @begins c c' _ hc hb =>
    have hothers : ∀ j ≠ id, ∀ d link, (o.put c').connection? j = some d →
        d.phase = .serving link → link.point = .waiting := by
      intro j hj d link hd hl
      obtain ⟨rfl, -⟩ | ⟨-, hd⟩ := connection?_put_cases hc hb.keeps.id hd
      · exact absurd rfl hj
      · exact h j d link hd hl
    have hs : ∀ d link, (o.put c').connection? id = some d → d.phase = .serving link →
        link.point = .sending → d.active = true := by
      intro d link hd hl hp
      obtain ⟨-, rfl⟩ | ⟨hj, -⟩ := connection?_put_cases hc hb.keeps.id hd
      · exact absurd hp (not_sending_begins hb (h id c · hc) hl)
      · exact absurd rfl hj
    obtain ⟨hr, ho⟩ := rested_settle hothers hs now
    exact ⟨hr, (orderly_of_plain hb.plain).append ho⟩

theorem Rested.accept (h : o.Rested) (peer : String) (answer : Option Bool) (now : Millis) :
    (o.accept peer answer now).1.1.Rested := by
  simp only [Outstation.accept]
  split
  · exact h
  · intro id c link hc hl
    simp only [connection?] at hc
    rw [List.find?_append, Option.or_eq_some_iff] at hc
    obtain hc | ⟨-, hc⟩ := hc
    · exact h id c link hc hl
    · rw [List.mem_singleton.1 (List.mem_of_find?_eq_some hc)] at hl
      cases hl

theorem Rested.expire (h : o.Rested) (id : Nat) (now : Millis) : (o.expire id now).1.Rested := by
  refine onSecuring_cases (P := fun step => step.1.Rested) h fun c deadline hc hp => ?_
  split
  · exact h.put hc rfl nofun
  · exact h

theorem Rested.updateLink (h : o.Rested) (id : Nat) {f : StationLink → StationLink}
    (hf : ∀ link, (f link).point = link.point) : (o.updateLink id f).Rested := by
  refine onLink_cases (P := fun step => step.1.Rested) (fun _ => h) fun c link hc hl => ?_
  refine h.put hc rfl fun link' hl' => ?_
  cases hl'
  exact (hf link).trans (h id c link hc hl)

theorem Rested.endOfStream (h : o.Rested) (id : Nat) : (o.endOfStream id).1.Rested :=
  onWaiting_cases (P := fun step => step.1.Rested) h fun _ _ hc _ _ =>
    h.put hc rfl nofun

/-- Commands may come in while a task waits. -/
theorem Rested.commands (h : o.Rested) (hc : o.connection? id = some c)
    (commands : List TaskCommand) : (o.put { c with commands }).Rested :=
  h.put hc rfl fun link hl => h id c link hc hl

theorem Rested.ask (h : o.Rested) (hc : o.connection? id = some c) (command : TaskCommand) :
    (o.put (c.ask command)).Rested := by
  unfold StationConnection.ask
  split
  · exact h.commands hc _
  · exact h.commands hc c.commands

theorem Rested.send (h : o.Rested) (id : Nat) (asdu : Asdu) (now : Millis) :
    (o.begin now (.send id asdu)).1.Rested := by
  simp only [begin, Outstation.send]
  cases hc : o.connection? id with
  | none => exact h
  | some c =>
    by_cases ha : c.active = true
    · simp only [StationConnection.send, if_pos ha, Except.map]
      exact h.commands hc _
    · simp only [StationConnection.send, if_neg ha, Except.map]
      exact h

theorem Rested.closeConnection (h : o.Rested) (id : Nat) : (o.closeConnection id).Rested := by
  unfold Outstation.closeConnection
  split
  · exact h.ask ‹_› _
  · exact h

theorem Rested.lookUp (h : o.Rested) : o.lookUp.Rested := by
  unfold Outstation.lookUp
  split
  · exact h
  · exact h

theorem Rested.wake (h : o.Rested) (id : Nat) : (o.wake id).Rested := by
  unfold Outstation.wake
  split
  · dsimp only
    split
    · exact Rested.ask (o := { o with woken := o.woken.erase id }) h ‹_› _
    · exact h
  · exact h

theorem Rested.wakeActive (h : o.Rested) : o.wakeActive.Rested := by
  unfold Outstation.wakeActive
  cases o.activeConnection with
  | none => exact h.lookUp
  | some c => exact h.lookUp.wake c.id

theorem orderly_accept (o : Outstation) (peer : String) (answer : Option Bool) (now : Millis) :
    Orderly (o.accept peer answer now).1.2 := by
  have ha : Orderly (if answer.isSome then [.asked] else []) := by
    intro c source asdu he
    cases answer <;> simp at he
  simp only [Outstation.accept]
  split
  · exact ha
  · refine ha.append fun c source asdu he => ?_
    cases List.mem_singleton.1 he

theorem orderly_push (o : Outstation) (asdu : Asdu) : Orderly (o.push asdu).2 := by
  intro c source taken he
  obtain ⟨_, -, he⟩ := List.mem_map.1 he
  cases he

/-- What leaves all tasks waiting is over at once. -/
theorem Rested.quiet (h : o.Rested) (ho : Orderly effects) :
    (andThen (o, effects) fun o => (o, [])).1.Rested ∧
      Orderly (andThen (o, effects) fun o => (o, [])).2 :=
  ⟨h, ho.append (orderly_nil)⟩

theorem Rested.turn (h : o.Rested) (now : Millis) (t : Turn) :
    (o.turn now t).1.Rested ∧ Orderly (o.turn now t).2 := by
  cases t with
  | push asdu => exact ⟨h, orderly_push o asdu⟩
  | lookUp => exact ⟨h.lookUp, orderly_nil⟩
  | wake id => exact ⟨h.wake id, orderly_nil⟩
  | whole input =>
    cases input with
    | handshake id secured => exact h.settle (beginsAt_secure o id secured now)
    | readable id => exact h.settle (beginsAt_takeFrame o id now)
    | command id => exact h.settle (beginsAt_takeCommand o id now)
    | timer id => exact h.settle (beginsAt_handleTimers o id now)
    | accept peer answer => exact (h.accept peer answer now).quiet (orderly_accept o peer answer now)
    | expire id =>
      exact (h.expire id now).quiet (orderly_of_plain (beginsAt_expire o id now).plain)
    | arrive id octets =>
      have hr : (o.arrive id octets).Rested := h.updateLink id fun _ => rfl
      exact hr.quiet orderly_nil
    | endOfStream id =>
      exact (h.endOfStream id).quiet (orderly_of_plain (beginsAt_endOfStream o id now).plain)
    | breakStream id =>
      have hr : (o.breakStream id).Rested := h.updateLink id fun _ => rfl
      exact hr.quiet orderly_nil
    | send id asdu =>
      exact (h.send id asdu now).quiet (orderly_of_plain (beginsAt_send o id asdu now).plain)
    | close id => exact (h.closeConnection id).quiet orderly_nil
    | handlers handlers => exact h.quiet orderly_nil
    | enqueue asdu =>
      have hr : (o.push asdu).1.Rested := h
      exact ⟨hr.wakeActive, (orderly_push o asdu).append orderly_nil⟩

/-! ## Runs -/

theorem rested_create (config : OutstationConfig) (handlers : Handlers) :
    (create config handlers).Rested := by
  intro id c link hc
  cases hc

theorem rested_run (config : OutstationConfig) (handlers : Handlers)
    (turns : List (Millis × Turn)) :
    ((create config handlers).run turns).1.Rested ∧
      Orderly ((create config handlers).run turns).2 := by
  refine history_induction (P := fun _ o effects => o.Rested ∧ Orderly effects)
    ⟨rested_create config handlers, orderly_nil⟩ (fun _ o effects t ⟨hr, ho⟩ => ?_) turns
  obtain ⟨hr', ho'⟩ := hr.turn t.1 t.2
  exact ⟨hr', ho.append ho'⟩

end Outstation

end Telecontrol
