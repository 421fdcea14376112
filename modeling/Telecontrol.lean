import Telecontrol.Codec
import Telecontrol.Master
import Telecontrol.Outstation.Run
import Telecontrol.Plain.Message
import Telecontrol.Time.Century
import Telecontrol.Proofs.Apdu.Grammar
import Telecontrol.Proofs.Address
import Telecontrol.Proofs.Asdu.Build
import Telecontrol.Proofs.Asdu.Capacity
import Telecontrol.Proofs.Asdu.Extension
import Telecontrol.Proofs.Asdu.Header
import Telecontrol.Proofs.Asdu.Pack
import Telecontrol.Proofs.Asdu.Parse
import Telecontrol.Proofs.Asdu.Unpack
import Telecontrol.Proofs.Codec.Chunks
import Telecontrol.Proofs.Codec.Sending
import Telecontrol.Proofs.Element.Codec
import Telecontrol.Proofs.Element.Fields
import Telecontrol.Proofs.InformationObject
import Telecontrol.Proofs.Link.Delivery
import Telecontrol.Proofs.Link.Promptness
import Telecontrol.Proofs.Link.Reopening
import Telecontrol.Proofs.Link.Transit
import Telecontrol.Proofs.Master.Request
import Telecontrol.Proofs.Session.Quiet
import Telecontrol.Proofs.Session.Silence
import Telecontrol.Proofs.Session.Supervision
import Telecontrol.Proofs.Session.Acknowledgement
import Telecontrol.Proofs.Time.Century
import Telecontrol.Proofs.Window.Refinement
import Telecontrol.Proofs.Outstation.Connections
import Telecontrol.Proofs.Outstation.Change
import Telecontrol.Proofs.Outstation.Active
import Telecontrol.Proofs.Outstation.Rest
import Telecontrol.Proofs.Outstation.Queue
import Telecontrol.Proofs.Outstation.Wakeups
import Telecontrol.Proofs.Outstation.Responses
import Telecontrol.Proofs.Outstation.View
import Telecontrol.Proofs.Outstation.Gating
import Telecontrol.Proofs.Outstation.Confirming
import Telecontrol.Proofs.Outstation.Transfer
import Telecontrol.Proofs.Outstation.Order
import Telecontrol.Proofs.Outstation.Lifecycle
import Telecontrol.Proofs.Outstation.Dispatching
import Telecontrol.Proofs.Machine.Asdu
import Telecontrol.Proofs.Machine.Element
import Telecontrol.Proofs.Machine.Frame
import Telecontrol.Proofs.Window.Numbered
import Telecontrol.Proofs.Machine.Session
import Telecontrol.Proofs.Machine.Run
import Telecontrol.Proofs.Master.Link
