import Telecontrol.Proofs.Session.Course
import Telecontrol.Proofs.Parameters

/-!
# Supervision by t1

A link fails exactly if a frame has waited for its answer for t1, over every run of a session.

* `Window.Recalls.t1Expired_iff`: the window looks at its oldest frame only, and that is enough.
* `Session.onTimer_t1Timeout_iff`: the timers report t1 where it has run out, and nowhere else.
* `Course.t1_supervision_exact`: the main result.
-/

namespace Telecontrol

namespace Window

variable {w : Window} {i : IdealWindow} {log : Log} {now : Millis}

theorem Recalls.t1Deadline_eq (h : w.Recalls i log) :
    w.t1Deadline = log.sentTimes[i.acked]?.map (· + w.parameters.t1) := by
  have ho : w.outstanding[0]?.map (·.sentAt) = log.sentTimes[i.acked]? := by
    rw [← Array.getElem?_toList, ← List.getElem?_map, h.times, List.getElem?_drop, Nat.add_zero]
  rw [← ho, t1Deadline, Option.map_map]
  rfl

/-- The oldest frame that awaits its acknowledgement was sent first. -/
theorem Recalls.t1Expired_iff (h : w.Recalls i log) (hs : log.sentTimes.Pairwise (· ≤ ·)) :
    w.t1Expired now = true ↔ ∃ n time, log.sentTimes[n]? = some time ∧
      time + w.parameters.t1 ≤ now ∧ ¬ log.Acknowledged n := by
  rw [t1Expired, h.t1Deadline_eq, Option.any_map, Option.any_eq_true]
  constructor
  · rintro ⟨time, ht, hle⟩
    exact ⟨i.acked, time, ht, of_decide_eq_true hle, fun ha => Nat.lt_irrefl _ ((h.acked _).2 ha)⟩
  · rintro ⟨n, time, ht, hle, hn⟩
    have hi : i.acked ≤ n := Nat.le_of_not_lt fun hlt => hn ((h.acked n).1 hlt)
    obtain ⟨hl, rfl⟩ := List.getElem?_eq_some_iff.1 ht
    have ha : i.acked < log.sentTimes.length := Nat.lt_of_le_of_lt hi hl
    have hf : log.sentTimes[i.acked] ≤ log.sentTimes[n] := by
      rcases Nat.lt_or_eq_of_le hi with hlt | he
      · exact List.pairwise_iff_getElem.1 hs _ _ ha hl hlt
      · simp only [he, Nat.le_refl]
    exact ⟨_, List.getElem?_eq_getElem ha,
      decide_eq_true (Nat.le_trans (Nat.add_le_add_right hf _) hle)⟩

end Window

namespace Session

variable {α β : Type} {p : Parameters} {s : Session} {log : Log} {now : Millis} {fault : Fault}

theorem andThen_error {o : Outcome α} {next : α → Session → Outcome β}
    (h : (o.andThen next).result = .error fault) :
    o.result = .error fault ∨ ∃ a, (next a o.session).result = .error fault := by
  unfold Outcome.andThen at h
  split at h
  · rename_i f hf
    cases h
    exact .inl hf
  · rename_i a _
    exact .inr ⟨a, h⟩

theorem write_ne_t1Timeout (s : Session) (f : Apdu) : (s.write f).result ≠ .error .t1Timeout := by
  unfold write Apdu.encode
  split
  · rename_i fault hf
    split at hf
    · cases hf
      exact nofun
    · cases hf
  · split
    · exact nofun
    · exact nofun

theorem acknowledgeIfDue_ne_t1Timeout (s : Session) (now : Millis) :
    (s.acknowledgeIfDue now).result ≠ .error .t1Timeout := by
  unfold acknowledgeIfDue
  split
  · exact write_ne_t1Timeout _ _
  · exact nofun

theorem testIfIdle_ne_t1Timeout (s : Session) (now : Millis) :
    (s.testIfIdle now).result ≠ .error .t1Timeout := by
  unfold testIfIdle
  split
  · dsimp only
    split
    · exact nofun
    · intro h
      obtain h | ⟨-, h⟩ := andThen_error h
      · exact write_ne_t1Timeout _ _ h
      · cases h
  · exact nofun

/-- The timers report t1 where it has run out, and no other fault looks like it. -/
theorem onTimer_t1Timeout_iff (s : Session) (now : Millis) :
    (s.onTimer now).result = .error .t1Timeout ↔ s.t1Expired now = true := by
  cases ht : s.t1Expired now with
  | true => rw [onTimer_expired ht]; exact iff_of_true rfl rfl
  | false =>
    refine iff_of_false (fun h => ?_) Bool.false_ne_true
    rw [onTimer, ht, if_neg Bool.false_ne_true] at h
    obtain h | ⟨-, h⟩ := andThen_error h
    · exact acknowledgeIfDue_ne_t1Timeout s now h
    · exact testIfIdle_ne_t1Timeout _ now h

theorem Recalls.t1Expired_iff (h : s.Recalls p log) (hs : log.sentTimes.Pairwise (· ≤ ·)) :
    s.t1Expired now = true ↔
      (∃ n time, log.sentTimes[n]? = some time ∧ time + p.t1 ≤ now ∧ ¬ log.Acknowledged n) ∨
      ∃ function time, log.Awaits function time ∧ time + p.t1 ≤ now := by
  obtain ⟨i, hi⟩ := h.window
  have hp : s.window.parameters = p := h.parameters
  rw [t1Expired, Bool.or_eq_true, hi.t1Expired_iff hs, hp, List.any_eq_true]
  refine or_congr_right ⟨?_, ?_⟩
  · rintro ⟨⟨function, deadline⟩, hm, hd⟩
    obtain ⟨time, ha, rfl⟩ := (h.awaited function deadline).1 hm
    exact ⟨function, time, ha, of_decide_eq_true hd⟩
  · rintro ⟨function, time, ha, hd⟩
    exact ⟨⟨function, time + p.t1⟩, (h.awaited _ _).2 ⟨time, ha, rfl⟩, decide_eq_true hd⟩

end Session

namespace Course

open Session (Event)

variable {p : Parameters} {t₀ : Millis} {c : Course} {events : List (Millis × Event)}

/-- **Supervision by t1 is exact.** After any run by a clock that does not go back, the timers fail the
link exactly if an I-frame that was sent t1 ago or earlier is not acknowledged, or no confirmation has
come in since an activation was sent t1 ago or earlier. Nothing is written then, and nothing changes. -/
theorem t1_supervision_exact (hv : p.validate = .ok ()) (hr : (start p t₀).run events = some c)
    (ht : (events.map Prod.fst).Pairwise (· ≤ ·)) (now : Millis) :
    ((c.session.onTimer now).result = .error .t1Timeout ↔
      (∃ n time, c.log.sentTimes[n]? = some time ∧ time + p.t1 ≤ now ∧ ¬ c.log.Acknowledged n) ∨
      ∃ function time, c.log.Awaits function time ∧ time + p.t1 ≤ now) ∧
    ((c.session.onTimer now).result = .error .t1Timeout →
      c.session.onTimer now = .fail c.session .t1Timeout) := by
  have hk : p.k < Apci.sequenceModulus := Nat.lt_succ_of_le (Parameters.Valid.of_validate hv).k_le
  have hs : c.log.sentTimes.Pairwise (· ≤ ·) :=
    (sorted_run hr ht).sublist (Log.informationTimes_sublist .sent c.log)
  constructor
  · rw [Session.onTimer_t1Timeout_iff, (recalls_run hk hr).t1Expired_iff hs]
  · intro h
    exact Session.onTimer_expired ((Session.onTimer_t1Timeout_iff _ _).1 h)

/-- An activation that is confirmed, an I-frame that is acknowledged and one that is not. -/
theorem t1_supervision_exact_oldest :
    let events : List (Millis × Event) :=
      [(0, .sendControl .startAct), (1, .receive (.unnumbered .startCon)), (2, .sendInformation [1]),
        (3, .sendInformation [2]), (4, .receive (.supervisory 1))]
    ∃ c, (start {} 0).run events = some c ∧ c.log.sentTimes = [2, 3] ∧
      (c.session.onTimer 15002).result = .ok () ∧ c.session.onTimer 15003 = .fail c.session .t1Timeout ∧
      ((∃ n time, c.log.sentTimes[n]? = some time ∧ time + 15000 ≤ 15003 ∧ ¬ c.log.Acknowledged n) ∨
        ∃ function time, c.log.Awaits function time ∧ time + 15000 ≤ 15003) := by
  intro events
  have he : ((start {} 0).run events).map (fun c =>
      (c.log.sentTimes, (c.session.onTimer 15002).result, (c.session.onTimer 15003).result)) =
      some ([2, 3], .ok (), .error .t1Timeout) := by decide
  obtain ⟨c, hc, he⟩ := Option.map_eq_some_iff.1 he
  obtain ⟨hs, he, hf⟩ : _ ∧ _ ∧ _ := by simpa using he
  have ht := t1_supervision_exact (p := {}) rfl hc (by decide) 15003
  exact ⟨c, hc, hs, he, ht.2 hf, ht.1.1 hf⟩

end Course

end Telecontrol
