import Telecontrol.Proofs.Asdu.Parse
import Telecontrol.Proofs.Outstation.Change
import Telecontrol.Proofs.Parameters

/-!
# What becomes of a command

Every ASDU that the active connection receives is answered once: by a handler that takes it, or by the
outstation itself with the octets that came in, under another cause.

* `TypeId.commandCauses`: the causes that a command may have.
* `HandlerRoute.Carries`: what a handler of a type is given, read off an object.
* `Asdu.Refused`, `Asdu.Echoed`, `Asdu.Addresses`: what the outstation does with an ASDU before it asks the
  handler of everything.
* `Answers`: the handlers that are called and the reply. `Handlers.dispatch_answers`: a dispatch is so.
* `Asdu.encode_reply`: a reply is written as what came in, but for one octet.
* `Outstation.dispatch_answers_once`: the main statement.
-/

namespace Telecontrol

namespace TypeId

/-- The causes that a command may have; for other types there is no rule. -/
def commandCauses : TypeId → List Cause
  | .interrogation | .counterInterrogation => [.activation, .deactivation]
  | .read => [.request]
  | .clockSync | .test | .resetProcess => [.activation]
  | .delayAcquisition => [.activation, .spontaneous]
  | _ => []

theorem allowsCause?_eq_some_false {t : TypeId} {cause : Cause} :
    t.allowsCause? cause = some false ↔ t.commandCauses ≠ [] ∧ cause ∉ t.commandCauses := by
  cases t <;> simp [allowsCause?, commandCauses]

end TypeId

namespace HandlerRoute

/-- The type whose handler a route leads to. -/
def command? : HandlerRoute → Option TypeId
  | .interrogation _ => some .interrogation
  | .counterInterrogation _ => some .counterInterrogation
  | .read _ => some .read
  | .clockSync _ => some .clockSync
  | .resetProcess _ => some .resetProcess
  | .delayAcquisition _ => some .delayAcquisition
  | .any => none

/-- A route takes along what an object carries: the value of its element, or the address that is to be
read. -/
inductive Carries : HandlerRoute → InformationObject → Prop where
  | interrogation {address : UInt32} {qualifier : UInt8} {stamp : TypeId.interrogation.timeTag.Stamp} :
      Carries (.interrogation qualifier) ⟨address, .interrogation, qualifier, stamp⟩
  | counterInterrogation {address : UInt32} {qualifier : UInt8}
      {stamp : TypeId.counterInterrogation.timeTag.Stamp} :
      Carries (.counterInterrogation qualifier) ⟨address, .counterInterrogation, qualifier, stamp⟩
  | read {address : UInt32} {value : TypeId.read.kind.Value} {stamp : TypeId.read.timeTag.Stamp} :
      Carries (.read address) ⟨address, .read, value, stamp⟩
  | clockSync {address : UInt32} {time : Cp56Time} {stamp : TypeId.clockSync.timeTag.Stamp} :
      Carries (.clockSync time) ⟨address, .clockSync, time, stamp⟩
  | resetProcess {address : UInt32} {qualifier : UInt8} {stamp : TypeId.resetProcess.timeTag.Stamp} :
      Carries (.resetProcess qualifier) ⟨address, .resetProcess, qualifier, stamp⟩
  | delayAcquisition {address : UInt32} {delay : Cp16Time}
      {stamp : TypeId.delayAcquisition.timeTag.Stamp} :
      Carries (.delayAcquisition delay) ⟨address, .delayAcquisition, delay, stamp⟩

variable {route : HandlerRoute} {object : InformationObject}

theorem Carries.command (h : route.Carries object) : route.command? = some object.element.typeId := by
  cases h <;> rfl

theorem carries_iff : route.Carries object ↔ Handlers.routeOf object = some route := by
  constructor
  · intro h
    cases h <;> rfl
  · intro h
    obtain ⟨address, t, value, stamp⟩ := object
    cases t with
    | interrogation => cases h; exact .interrogation
    | counterInterrogation => cases h; exact .counterInterrogation
    | read => cases h; exact .read
    | clockSync => cases h; exact .clockSync
    | resetProcess => cases h; exact .resetProcess
    | delayAcquisition => cases h; exact .delayAcquisition
    | _ => cases h

end HandlerRoute

namespace Asdu

/-- The ASDU is a command whose cause is not allowed. -/
def Refused (a : Asdu) : Prop :=
  ∃ t, a.typeId? = some t ∧ t.commandCauses ≠ [] ∧ a.cause ∉ t.commandCauses

/-- The ASDU is a test, which comes back. -/
def Echoed (a : Asdu) : Prop := a.typeId? = some .test ∧ a.cause = .activation ∧ 0 < a.count

/-- The ASDU is for the handler of its own type. -/
structure Addresses (a : Asdu) (route : HandlerRoute) : Prop where
  cause : ∃ t, a.typeId? = some t ∧ route.command? = some t ∧ a.cause ∈ t.commandCauses
  value : ∃ object, a.element 0 = .ok object ∧ route.Carries object

end Asdu

/-- What becomes of an ASDU: the handler of its type that is called, the handler of everything if that is
called, and the reply of the outstation itself. -/
structure Answers (h : Handlers) (a : Asdu) (specific generic : Option HandlerCall) (reply : Option Asdu) :
    Prop where
  specific_iff : ∀ call, specific = some call ↔
    a.Addresses call.route ∧ h.call a call.route = some call.answer
  generic_iff : ∀ call, generic = some call ↔
    call.route = .any ∧ h.call a .any = some call.answer ∧ ¬ a.Refused ∧ ¬ a.Echoed ∧
      ∀ first, specific = some first → first.answer.handled = false
  silent_iff : reply = none ↔ ∃ call ∈ specific.toList ++ generic.toList, call.answer.handled = true
  refused : a.Refused → reply = some (a.refusal .unknownCause)
  echoed : a.Echoed → reply = some (a.withCause .activationConfirm)
  unhandled : ¬ a.Refused → ¬ a.Echoed → ∀ r, reply = some r → r = a.refusal .unknownTypeId

/-! ## The first object -/

namespace Asdu

variable {p : Parameters} {bs : Octets} {a : Asdu} {route : HandlerRoute} {object : InformationObject}

/-- An ASDU that was read has a first object if its type is supported and it says that it has objects. -/
theorem first_object (hp : parse p bs = .ok a) :
    (∃ fault, a.element 0 = .error fault) ∧ (a.typeId? = none ∨ a.count = 0) ∨
      ∃ object, a.element 0 = .ok object ∧ a.typeId? = some object.element.typeId ∧ 0 < a.count := by
  cases ht : a.typeId? with
  | none => exact .inl ⟨⟨_, element_unknown ht 0⟩, .inl rfl⟩
  | some t =>
    by_cases hn : a.count = 0
    · exact .inl ⟨⟨_, element_outOfBounds ht (Nat.le_of_eq hn)⟩, .inr hn⟩
    · obtain ⟨rfl, -, hlength⟩ := parse_eq_ok_iff.1 hp
      obtain ⟨objects, hu⟩ := exists_unpacks ht (hlength t ht)
      have hpos := Nat.pos_of_ne_zero hn
      obtain ⟨object, later, rfl⟩ := List.exists_cons_of_length_pos (Nat.lt_of_lt_of_eq hpos hu.length.symm)
      obtain ⟨he, rfl⟩ := hu.element 0 object rfl
      exact .inr ⟨object, he, rfl, hpos⟩

theorem refused_iff : a.typeId?.bind (·.allowsCause? a.cause) = some false ↔ a.Refused := by
  rw [Option.bind_eq_some_iff]
  exact exists_congr fun t => and_congr_right fun _ => TypeId.allowsCause?_eq_some_false

theorem Addresses.not_refused (h : a.Addresses route) : ¬ a.Refused := by
  obtain ⟨t, ht, -, hc⟩ := h.cause
  rintro ⟨t', ht', -, hn⟩
  obtain rfl : t = t' := Option.some.inj (ht.symm.trans ht')
  exact hn hc

theorem Addresses.not_echoed (h : a.Addresses route) : ¬ a.Echoed := by
  obtain ⟨t, ht, hr, -⟩ := h.cause
  rintro ⟨ht', -⟩
  obtain rfl : t = .test := Option.some.inj (ht.symm.trans ht')
  cases route <;> cases hr

theorem Echoed.not_refused (h : a.Echoed) : ¬ a.Refused := by
  rintro ⟨t, ht, -, hn⟩
  obtain rfl : .test = t := Option.some.inj (h.1.symm.trans ht)
  exact hn (List.mem_singleton.2 h.2.1)

/-- The handler that an ASDU is for is the one that its first object goes to. -/
theorem addresses_iff (ho : a.element 0 = .ok object) (ht : a.typeId? = some object.element.typeId)
    (hr : ¬ a.Refused) : a.Addresses route ↔ Handlers.routeOf object = some route := by
  rw [← HandlerRoute.carries_iff]
  constructor
  · intro h
    obtain ⟨other, ho', hc⟩ := h.value
    rw [ho] at ho'
    cases ho'
    exact hc
  · intro hc
    refine ⟨⟨_, ht, hc.command, ?_⟩, object, ho, hc⟩
    by_contra hn
    refine hr ⟨_, ht, ?_, hn⟩
    cases hc <;> exact List.cons_ne_nil _ _

end Asdu

/-! ## Handlers -/

namespace Handlers

variable {h : Handlers} {a : Asdu} {p : Parameters} {bs : Octets}

/-- The handler of everything, asked last. -/
theorem offer_any (h : Handlers) (a : Asdu) :
    ∃ generic : Option HandlerCall,
      (∀ call, generic = some call ↔ call.route = .any ∧ h.call a .any = some call.answer) ∧
      (h.offer a [.any]).calls = generic.toList ∧
      ((h.offer a [.any]).reply = none ↔ ∃ call ∈ generic.toList, call.answer.handled = true) ∧
      ∀ r, (h.offer a [.any]).reply = some r → r = a.refusal .unknownTypeId := by
  cases hc : h.call a .any with
  | none =>
    refine ⟨none, by simp, ?_⟩
    simp only [offer, hc]
    simp
  | some answer =>
    refine ⟨some ⟨.any, answer⟩, fun call => ?_, ?_⟩
    · constructor
      · rintro ⟨⟩
        exact ⟨rfl, rfl⟩
      · obtain ⟨route, answer'⟩ := call
        rintro ⟨rfl, ha⟩
        cases ha
        rfl
    · cases hh : answer.handled <;> simp [offer, hc, hh]

/-- A dispatch that comes to the handler of everything, after the handler of its type has not handled the
ASDU or was not there. -/
theorem answers_offer_any {specific : Option HandlerCall} (hr : ¬ a.Refused) (he : ¬ a.Echoed)
    (hs : ∀ call, specific = some call ↔ a.Addresses call.route ∧ h.call a call.route = some call.answer)
    (hf : ∀ first, specific = some first → first.answer.handled = false) :
    ∃ generic, (h.offer a [.any]).calls = generic.toList ∧
      Answers h a specific generic (h.offer a [.any]).reply := by
  obtain ⟨generic, hg, hcalls, hreply, hlast⟩ := offer_any h a
  refine ⟨generic, hcalls, hs, fun call => (hg call).trans ?_, hreply.trans ?_, fun hr' => absurd hr' hr,
    fun he' => absurd he' he, fun _ _ => hlast⟩
  · exact ⟨fun ⟨hi, hc⟩ => ⟨hi, hc, hr, he, hf⟩, fun ⟨hi, hc, _⟩ => ⟨hi, hc⟩⟩
  · refine exists_congr fun call => and_congr_left fun hh => ?_
    rw [List.mem_append]
    refine (or_iff_right fun hm => ?_).symm
    rw [hf call (Option.mem_toList.1 hm)] at hh
    cases hh

theorem dispatch_refused (hr : a.Refused) : h.dispatch a = { reply := some (a.refusal .unknownCause) } :=
  if_pos (Asdu.refused_iff.2 hr)

theorem dispatch_empty (hr : ¬ a.Refused) {fault : Fault} (he : a.element 0 = .error fault) :
    h.dispatch a = h.offer a [.any] := by
  rw [dispatch, if_neg (mt Asdu.refused_iff.1 hr), he]

theorem dispatch_test (hr : ¬ a.Refused) {object : InformationObject} (ho : a.element 0 = .ok object)
    (ht : object.element.typeId = .test) :
    h.dispatch a = { reply := some (a.withCause .activationConfirm) } := by
  rw [dispatch, if_neg (mt Asdu.refused_iff.1 hr), ho]
  exact if_pos ht

theorem dispatch_object (hr : ¬ a.Refused) {object : InformationObject} (ho : a.element 0 = .ok object)
    (ht : object.element.typeId ≠ .test) :
    h.dispatch a = h.offer a ((routeOf object).toList ++ [.any]) := by
  rw [dispatch, if_neg (mt Asdu.refused_iff.1 hr), ho]
  exact if_neg ht

theorem offer_absent {route : HandlerRoute} (hc : h.call a route = none) :
    h.offer a [route, .any] = h.offer a [.any] := by
  rw [offer, hc]

theorem offer_handled {route : HandlerRoute} {answer : Answer} (hc : h.call a route = some answer)
    (hh : answer.handled = true) : h.offer a [route, .any] = { calls := [⟨route, answer⟩] } := by
  rw [offer, hc]
  exact if_pos hh

theorem offer_passed_on {route : HandlerRoute} {answer : Answer} (hc : h.call a route = some answer)
    (hh : answer.handled = false) : h.offer a [route, .any] =
      { h.offer a [.any] with calls := ⟨route, answer⟩ :: (h.offer a [.any]).calls } := by
  rw [offer, hc]
  exact if_neg (Bool.eq_false_iff.1 hh)

/-- The call of the handler that an ASDU is for is the only one that its type asks for. -/
theorem eq_call_iff {route : HandlerRoute} {answer : Answer} (hs : ∀ r, a.Addresses r ↔ some route = some r)
    (hc : h.call a route = some answer) (call : HandlerCall) :
    some ⟨route, answer⟩ = some call ↔ a.Addresses call.route ∧ h.call a call.route = some call.answer := by
  rw [hs]
  constructor
  · rintro ⟨⟩
    exact ⟨rfl, hc⟩
  · obtain ⟨route', answer'⟩ := call
    rintro ⟨hi, hcall⟩
    cases hi
    rw [hc] at hcall
    cases hcall
    rfl

/-- A dispatch to the handler that an ASDU is for, if it is for one, and then to the handler of
everything. -/
theorem answers_offer (h : Handlers) (hr : ¬ a.Refused) (he : ¬ a.Echoed) {own : Option HandlerRoute}
    (hs : ∀ route, a.Addresses route ↔ own = some route) :
    ∃ specific generic,
      (h.offer a (own.toList ++ [.any])).calls = specific.toList ++ generic.toList ∧
        Answers h a specific generic (h.offer a (own.toList ++ [.any])).reply := by
  cases hown : own.bind fun route => (h.call a route).map (HandlerCall.mk route) with
  | none =>
    have hd : h.offer a (own.toList ++ [.any]) = h.offer a [.any] := by
      cases own with
      | none => rfl
      | some route =>
        rw [Option.bind_some, Option.map_eq_none_iff] at hown
        exact offer_absent hown
    have hnone (call : HandlerCall) : none = some call ↔
        a.Addresses call.route ∧ h.call a call.route = some call.answer := by
      refine iff_of_false nofun ?_
      rintro ⟨hroute, hcall⟩
      rw [(hs _).1 hroute, Option.bind_some, hcall] at hown
      cases hown
    obtain ⟨generic, hcalls, hanswers⟩ := answers_offer_any hr he hnone nofun
    exact ⟨none, generic, hd ▸ hcalls, hd ▸ hanswers⟩
  | some first =>
    obtain ⟨route, rfl, hfirst⟩ := Option.bind_eq_some_iff.1 hown
    obtain ⟨answer, hc, rfl⟩ := Option.map_eq_some_iff.1 hfirst
    have hspecific := eq_call_iff hs hc
    rw [Option.toList_some, List.singleton_append]
    cases hh : answer.handled with
    | true =>
      rw [offer_handled hc hh]
      refine ⟨some ⟨route, answer⟩, none, rfl, hspecific, fun call => ?_, ?_, fun hr' => absurd hr' hr,
        fun he' => absurd he' he, nofun⟩
      · refine iff_of_false nofun fun hg => ?_
        have hf := hg.2.2.2.2 _ rfl
        rw [hh] at hf
        cases hf
      · exact iff_of_true rfl ⟨_, List.mem_singleton_self _, hh⟩
    | false =>
      obtain ⟨generic, hcalls, hanswers⟩ := answers_offer_any hr he hspecific fun first hf => by
        cases hf
        exact hh
      rw [offer_passed_on hc hh]
      exact ⟨some ⟨route, answer⟩, generic, congrArg _ hcalls, hanswers⟩

/-- Whatever the handlers are, an ASDU that was read is answered. -/
theorem dispatch_answers (h : Handlers) (hp : Asdu.parse p bs = .ok a) :
    ∃ specific generic, (h.dispatch a).calls = specific.toList ++ generic.toList ∧
      Answers h a specific generic (h.dispatch a).reply := by
  by_cases hr : a.Refused
  · rw [dispatch_refused hr]
    refine ⟨none, none, rfl, fun call => ?_, fun call => ?_, by simp, fun _ => rfl,
      fun he => absurd hr he.not_refused, fun hr' => absurd hr hr'⟩
    · exact iff_of_false nofun fun hs => hs.1.not_refused hr
    · exact iff_of_false nofun fun hg => hg.2.2.1 hr
  · obtain ⟨⟨fault, he⟩, hn⟩ | ⟨object, ho, ht, hn⟩ := Asdu.first_object hp
    · have hechoed : ¬ a.Echoed := by
        rintro ⟨ht, -, hpos⟩
        rcases hn with hn | hn
        · rw [hn] at ht
          cases ht
        · exact Nat.ne_of_gt hpos hn
      have hnone (route : HandlerRoute) : a.Addresses route ↔ none = some route := by
        refine iff_of_false ?_ nofun
        rintro ⟨-, object, ho, -⟩
        rw [he] at ho
        cases ho
      rw [dispatch_empty hr he]
      exact answers_offer h hr hechoed hnone
    · by_cases htest : object.element.typeId = .test
      · rw [htest] at ht
        rw [dispatch_test hr ho htest]
        have hechoed : a.Echoed := by
          refine ⟨ht, ?_, hn⟩
          by_contra hc
          exact hr ⟨_, ht, List.cons_ne_nil _ _, fun hm => hc (List.mem_singleton.1 hm)⟩
        refine ⟨none, none, rfl, fun call => ?_, fun call => ?_, by simp, fun hr' => absurd hr' hr,
          fun _ => rfl, fun _ he => absurd hechoed he⟩
        · exact iff_of_false nofun fun hs => hs.1.not_echoed hechoed
        · exact iff_of_false nofun fun hg => hg.2.2.2.1 hechoed
      · rw [dispatch_object hr ho htest]
        refine answers_offer h hr (fun he => htest ?_) fun route => Asdu.addresses_iff ho ht hr
        exact Option.some.inj (ht.symm.trans he.1)

end Handlers

/-! ## The octets of a reply -/

/-- An octet string with another cause in its third octet, and the mark of a negative confirmation set or
not. The mark of a test stays, and so does every other octet. -/
def Octets.withCause (bs : Octets) (code : UInt8) (negative : Bool) : Octets :=
  bs.set 2 (code ||| bs.getD 2 0 &&& 0x80 ||| flagBits negative 0x40)

theorem Parameters.StandardHeader.three_lt_headerSize {p : Parameters} (h : p.StandardHeader) :
    3 < p.headerSize := by
  obtain ⟨ht, hq, hc, ha⟩ := h
  unfold Parameters.headerSize
  omega

namespace Asdu

variable {p : Parameters} {bs : Octets} {a : Asdu}

theorem encode_reply (hv : p.StandardHeader) (hp : parse p bs = .ok a) (cause : Cause) (negative : Bool) :
    ({ a with cause, negative } : Asdu).encode = bs.withCause cause.code negative := by
  obtain ⟨rfl, hlength, -⟩ := parse_eq_ok_iff.1 hp
  have hset : ({ ofOctets p bs with cause, negative } : Asdu).encode =
      (ofOctets p bs).encode.set 2 ({ ofOctets p bs with cause, negative } : Asdu).causeOctet := rfl
  have htest : flagBits (ofOctets p bs).test 0x80 = bs.getD 2 0 &&& 0x80 :=
    flagBits_hasBits _ (by decide)
  rw [hset, encode_ofOctets hv hlength, causeOctet, htest, Octets.withCause]

end Asdu

namespace Outstation

/-- The handlers that were called for a connection, with the ASDUs that they were called for. -/
def calls (id : Nat) (effects : List StationEffect) : List (Asdu × HandlerCall) :=
  effects.filterMap fun
    | .called i asdu call _ => if i = id then some (asdu, call) else none
    | _ => none

/-- The ASDUs that the outstation itself answered with on a connection. -/
def replies (id : Nat) (effects : List StationEffect) : List Asdu :=
  effects.filterMap fun
    | .replied i asdu => if i = id then some asdu else none
    | _ => none

section

variable {o : Outstation} {id : Nat} {c : StationConnection} {link : StationLink} {a : Asdu}

theorem mem_calls {call : HandlerCall} {effects : List StationEffect} :
    (a, call) ∈ calls id effects ↔ ∃ results, .called id a call results ∈ effects := by
  constructor
  · intro h
    obtain ⟨e, he, hcall⟩ := List.mem_filterMap.1 h
    split at hcall
    · simp only [Option.ite_none_right_eq_some, Option.some.injEq, Prod.mk.injEq] at hcall
      obtain ⟨rfl, rfl, rfl⟩ := hcall
      exact ⟨_, he⟩
    · cases hcall
  · rintro ⟨results, he⟩
    exact List.mem_filterMap.2 ⟨_, he, if_pos rfl⟩

theorem calls_performCalls (ha : c.active = true) (hr : c.isRegistered = true) (made : List HandlerCall) :
    calls c.id (performCalls c a made).2 = made.map (a, ·) := by
  rw [StationConnection.performCalls_of_active ha hr]
  induction made with
  | nil => rfl
  | cons call made ih =>
    dsimp only at ih ⊢
    rw [List.flatMap_cons, List.map_cons, ← ih]
    simp [calls, List.filterMap_map]

theorem replies_performCalls (ha : c.active = true) (hr : c.isRegistered = true) (made : List HandlerCall) :
    replies c.id (performCalls c a made).2 = [] := by
  refine List.filterMap_eq_nil_iff.2 fun e he => ?_
  obtain ⟨_, rfl⟩ | ⟨_, _, rfl⟩ := StationConnection.mem_performCalls ha hr he
  · rfl
  · rfl

theorem calls_replied (made : List Asdu) : calls id (made.map (.replied id)) = [] := by
  simp [calls, List.filterMap_map]

theorem replies_replied (made : List Asdu) : replies id (made.map (.replied id)) = made := by
  simp [replies, List.filterMap_map]

/-- What is seen of a dispatch, and what it leaves behind. -/
theorem move_dispatch (hc : o.connection? id = some c) (hl : c.phase = .serving link) {octets : Octets}
    (hp : link.point = .acting (.asdu octets)) (ha : c.active = true)
    (hd : Asdu.parse o.config.parameters octets = .ok a) (now : Millis) :
    let next := o.move now (.proceed id)
    let d := o.handlers.dispatch a
    calls id next.2 = d.calls.map (a, ·) ∧ replies id next.2 = d.reply.toList ∧
      ∃ c' link', next.1.connection? id = some c' ∧ c'.phase = .serving link' ∧
        link'.outbox = link.outbox ++ d.reply.toList := by
  intro next d
  have hr := StationConnection.isRegistered_of_link hl
  have hnext : next = (o.put ((performCalls c a d.calls).1.withLink
      { link with point := .due, outbox := link.outbox ++ d.reply.toList }),
      (performCalls c a d.calls).2 ++ d.reply.toList.map (.replied c.id)) := by
    show o.proceed id now = _
    rw [proceed, onLink_of hc hl]
    simp only [hp, act, if_pos ha, onAsdu, hd, d]
  obtain rfl := id_of_connection? hc
  rw [hnext]
  refine ⟨?_, ?_, ?_⟩
  · rw [calls, List.filterMap_append, ← calls, ← calls, calls_performCalls ha hr, calls_replied,
      List.append_nil]
  · rw [replies, List.filterMap_append, ← replies, ← replies, replies_performCalls ha hr,
      replies_replied, List.nil_append]
  · refine ⟨_, _, connection?_put hc ?_, rfl, rfl⟩
    rw [StationConnection.performCalls_of_active ha hr]
    rfl

end

/-! ## Main statement -/

/-- **A command is answered once.** Whatever the handlers are, when the task of the active connection acts on
an ASDU that can be read: the handler of its type is called only for that type, with a cause that is allowed
and with the value of the first object, and then, unless the ASDU was refused, came back as a test or was
handled, the handler of everything. The outstation itself replies if and only if no handler took the ASDU. Its
one reply goes out as the octets that came in, but for the cause and the mark of a negative confirmation. -/
theorem dispatch_answers_once (o : Outstation) (hv : o.config.parameters.validate = .ok ()) {id : Nat}
    {c : StationConnection} {link : StationLink} {octets : Octets} {a : Asdu}
    (hc : o.connection? id = some c) (hl : c.phase = .serving link)
    (hp : link.point = .acting (.asdu octets)) (ha : c.active = true)
    (hd : Asdu.parse o.config.parameters octets = .ok a) (now : Millis) :
    let next := o.move now (.proceed id)
    ∃ (specific generic : Option HandlerCall) (reply : Option Asdu),
      Answers o.handlers a specific generic reply ∧
      calls id next.2 = (specific.toList ++ generic.toList).map (a, ·) ∧
      replies id next.2 = reply.toList ∧
      (∃ c' link', next.1.connection? id = some c' ∧ c'.phase = .serving link' ∧
        link'.outbox = link.outbox ++ reply.toList) ∧
      2 < octets.length ∧
      ∀ r, reply = some r →
        (a.Refused → r.encode = octets.withCause 45 true) ∧
        (a.Echoed → r.encode = octets.withCause 7 (hasBits (octets.getD 2 0) 0x40)) ∧
        (¬ a.Refused → ¬ a.Echoed → r.encode = octets.withCause 44 true) := by
  intro next
  have hheader := (Parameters.valid_iff.1 hv).toStandardHeader
  obtain ⟨specific, generic, hcalls, hanswers⟩ := Handlers.dispatch_answers o.handlers hd
  obtain ⟨hseen, hreplies, hafter⟩ := move_dispatch hc hl hp ha hd now
  refine ⟨specific, generic, _, hanswers, hcalls ▸ hseen, hreplies, hafter, ?_, fun r hr => ⟨?_, ?_, ?_⟩⟩
  · obtain ⟨-, hlength, -⟩ := Asdu.parse_eq_ok_iff.1 hd
    have hsize := hheader.three_lt_headerSize
    omega
  · intro hrefused
    obtain rfl := Option.some.inj (hr.symm.trans (hanswers.refused hrefused))
    exact Asdu.encode_reply hheader hd .unknownCause true
  · intro hechoed
    obtain rfl := Option.some.inj (hr.symm.trans (hanswers.echoed hechoed))
    have hnegative : a.negative = hasBits (octets.getD 2 0) 0x40 := by
      obtain ⟨rfl, -⟩ := Asdu.parse_eq_ok_iff.1 hd
      rfl
    rw [← hnegative]
    exact Asdu.encode_reply hheader hd .activationConfirm a.negative
  · intro hrefused hechoed
    obtain rfl := hanswers.unhandled hrefused hechoed r hr
    exact Asdu.encode_reply hheader hd .unknownTypeId true

/-- An interrogation, marked as a test, that its handler does not take. -/
theorem dispatch_answers_once_interrogation :
    let octets : Octets := [100, 1, 0x86, 9, 1, 0, 0, 0, 0, 20]
    let a := Asdu.ofOctets {} octets
    let answer : Answer := { handled := false }
    let link : StationLink := { session := .start {} 0, point := .acting (.asdu octets) }
    let o : Outstation :=
      { create {} { interrogation := some fun _ _ => answer } with
        connections := [{ id := 1, peer := "master", active := true, phase := .serving link }] }
    o.config.parameters.validate = .ok () ∧ Asdu.parse o.config.parameters octets = .ok a ∧
      calls 1 (o.move 2 (.proceed 1)).2 = [(a, ⟨.interrogation 20, answer⟩)] ∧
      (replies 1 (o.move 2 (.proceed 1)).2).map Asdu.encode = [[100, 1, 0xEC, 9, 1, 0, 0, 0, 0, 20]] := by
  intro octets a answer link o
  have hv : o.config.parameters.validate = .ok () := rfl
  have htype : a.typeId? = some .interrogation := by decide +kernel
  have hd : Asdu.parse o.config.parameters octets = .ok a := by
    refine Asdu.parse_eq_ok_iff.2 ⟨rfl, by decide, fun t ht => ?_⟩
    cases htype.symm.trans ht
    decide
  have hc : o.connection? 1 = some { id := 1, peer := "master", active := true, phase := .serving link } := rfl
  obtain ⟨specific, generic, reply, hanswers, hcalls, hreplies, -, -, hencode⟩ :=
    dispatch_answers_once o hv hc rfl rfl rfl hd 2
  have haddresses : a.Addresses (.interrogation 20) :=
    ⟨⟨.interrogation, htype, rfl, by decide⟩, ⟨0, .interrogation, (20 : UInt8), ()⟩,
      by decide +kernel, .interrogation⟩
  have hspecific : specific = some ⟨.interrogation 20, answer⟩ :=
    (hanswers.specific_iff _).2 ⟨haddresses, rfl⟩
  have hgeneric : generic = none :=
    Option.eq_none_iff_forall_ne_some.2 fun call hg => by cases ((hanswers.generic_iff call).1 hg).2.1
  subst hspecific hgeneric
  obtain ⟨r, rfl⟩ : ∃ r, reply = some r := by
    refine Option.ne_none_iff_exists'.1 fun hn => ?_
    obtain ⟨call, hm, hh⟩ := hanswers.silent_iff.1 hn
    rw [List.mem_singleton.1 hm] at hh
    cases hh
  refine ⟨hv, hd, hcalls, ?_⟩
  rw [hreplies, Option.toList_some, List.map_singleton,
    (hencode r rfl).2.2 haddresses.not_refused haddresses.not_echoed]
  decide

end Outstation

end Telecontrol
