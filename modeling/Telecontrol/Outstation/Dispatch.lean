import Telecontrol.Asdu

/-!
# Dispatch of commands

How an outstation routes a received ASDU. A command with a cause that the standard does not allow for
it is refused; else it goes to the handler of its type, then to the handler of everything; what nobody
handles is refused as an unknown type.

* `Handlers`: what the application does with commands. `Answer` is what a handler leaves behind.
* `Asdu.confirmation`, `Asdu.termination`: the answers to a command.
* `Dispatch`: the handlers that were called and the reply of the outstation itself.
* `Handlers.dispatch`: the routing.
-/

namespace Telecontrol

namespace Asdu

/-- The confirmation of a command: of a deactivation if it is one, else of an activation. -/
def confirmation (a : Asdu) (negative : Bool) : Asdu :=
  let cause := if a.cause = .deactivation then .deactivationConfirm else .activationConfirm
  { a with cause, negative }

def termination (a : Asdu) : Asdu := { a with cause := .activationTermination, negative := false }

/-- The refusal of a command, with the reason as its cause. -/
def refusal (a : Asdu) (reason : Cause) : Asdu := { a with cause := reason, negative := true }

end Asdu

/-- What a handler does on the connection that a command came from. -/
inductive HandlerAction where
  | send (asdu : Asdu)
  | close
  deriving DecidableEq, Repr, Inhabited

/-- What a handler leaves behind: what it did, in order, and whether it handled the command. -/
structure Answer where
  actions : List HandlerAction := []
  handled : Bool := true
  deriving DecidableEq, Repr, Inhabited

/-- The ASDUs that a connection took from a handler; `results` tells how its actions went. -/
def Answer.accepted (answer : Answer) (results : List (Except Fault Unit)) : List Asdu :=
  (answer.actions.zip results).filterMap fun
    | (.send asdu, .ok _) => some asdu
    | _ => none

/-- The handler that a command goes to, with the value that it is given. The handler `any` takes
everything. -/
inductive HandlerRoute where
  | interrogation (qualifier : UInt8)
  | counterInterrogation (qualifier : UInt8)
  | read (address : UInt32)
  | clockSync (time : Cp56Time)
  | resetProcess (qualifier : UInt8)
  | delayAcquisition (delay : Cp16Time)
  | any
  deriving DecidableEq, Repr, Inhabited

/-- The handlers of an outstation, each of which may be missing. -/
structure Handlers where
  interrogation : Option (Asdu → UInt8 → Answer) := none
  counterInterrogation : Option (Asdu → UInt8 → Answer) := none
  read : Option (Asdu → UInt32 → Answer) := none
  clockSync : Option (Asdu → Cp56Time → Answer) := none
  resetProcess : Option (Asdu → UInt8 → Answer) := none
  delayAcquisition : Option (Asdu → Cp16Time → Answer) := none
  asdu : Option (Asdu → Answer) := none
  deriving Inhabited

/-- A handler that was called, and its answer. -/
structure HandlerCall where
  route : HandlerRoute
  answer : Answer
  deriving DecidableEq, Repr, Inhabited

/-- What became of a received ASDU: the handlers that were called, in order, and the reply of the
outstation itself. -/
structure Dispatch where
  calls : List HandlerCall := []
  reply : Option Asdu := none
  deriving DecidableEq, Repr, Inhabited

/-- Whether the standard allows a cause for a command type; there is no rule for other types. -/
def TypeId.allowsCause? (t : TypeId) (cause : Cause) : Option Bool :=
  match t with
  | .interrogation | .counterInterrogation =>
    some (cause = .activation || cause = .deactivation)
  | .read => some (cause = .request)
  | .clockSync | .test | .resetProcess => some (cause = .activation)
  | .delayAcquisition => some (cause = .activation || cause = .spontaneous)
  | _ => none

namespace Handlers

def call (h : Handlers) (asdu : Asdu) (route : HandlerRoute) : Option Answer :=
  match route with
  | .interrogation qualifier => h.interrogation.map (· asdu qualifier)
  | .counterInterrogation qualifier => h.counterInterrogation.map (· asdu qualifier)
  | .read address => h.read.map (· asdu address)
  | .clockSync time => h.clockSync.map (· asdu time)
  | .resetProcess qualifier => h.resetProcess.map (· asdu qualifier)
  | .delayAcquisition delay => h.delayAcquisition.map (· asdu delay)
  | .any => h.asdu.map (· asdu)

/-- Calls the handlers of the routes, in order, until one has handled the ASDU; if none does, it is
refused as an unknown type. -/
def offer (h : Handlers) (asdu : Asdu) : List HandlerRoute → Dispatch
  | [] => { reply := some (asdu.refusal .unknownTypeId) }
  | route :: later =>
    match h.call asdu route with
    | none => h.offer asdu later
    | some answer =>
      if answer.handled then
        { calls := [⟨route, answer⟩] }
      else
        let rest := h.offer asdu later
        { rest with calls := ⟨route, answer⟩ :: rest.calls }

/-- The handler of its own type that an object goes to, if there is one for the type. -/
def routeOf (o : InformationObject) : Option HandlerRoute :=
  match o.element with
  | ⟨.interrogation, qualifier, _⟩ => some (.interrogation qualifier)
  | ⟨.counterInterrogation, qualifier, _⟩ => some (.counterInterrogation qualifier)
  | ⟨.read, _, _⟩ => some (.read o.address)
  | ⟨.clockSync, time, _⟩ => some (.clockSync time)
  | ⟨.resetProcess, qualifier, _⟩ => some (.resetProcess qualifier)
  | ⟨.delayAcquisition, delay, _⟩ => some (.delayAcquisition delay)
  | _ => none

/-- Routes a received ASDU. The outstation itself answers a test. -/
def dispatch (h : Handlers) (asdu : Asdu) : Dispatch :=
  if asdu.typeId?.bind (·.allowsCause? asdu.cause) = some false then
    { reply := some (asdu.refusal .unknownCause) }
  else
    match asdu.element 0 with
    | .error _ => h.offer asdu [.any]
    | .ok object =>
      if object.element.typeId = .test then
        { reply := some (asdu.withCause .activationConfirm) }
      else
        h.offer asdu ((routeOf object).toList ++ [.any])

end Handlers

end Telecontrol
