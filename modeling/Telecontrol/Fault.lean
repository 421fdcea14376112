/-!
# Faults

`Fault` lists what can go wrong with a link, a message or a configuration, by cause. `Fault.message`
is the wording that a user of the library reads, and `Fault.label` names the kind.
-/

namespace Telecontrol

/-- Why an operation did not succeed. -/
inductive Fault where
  | connection (text : String)
  | notConnected
  | connectionTimeout
  | io (text : String)
  | protocol (text : String)
  | parsing (text : String)
  | unknownTypeId (code : UInt8)
  | unknownCause (code : UInt8)
  | sequenceMismatch (expected actual : Nat)
  | t1Timeout
  | t3Timeout
  | tooManyUnconfirmed (k : Nat)
  | range (text : String)
  | config (text : String)
  | channelClosed
  deriving DecidableEq, Repr, Inhabited

namespace Fault

def message : Fault → String
  | connection text => s!"Connection error: {text}"
  | notConnected => "Not connected"
  | connectionTimeout => "Connection timeout"
  | io text => s!"I/O error: {text}"
  | protocol text => s!"Protocol error: {text}"
  | parsing text => s!"Parsing error: {text}"
  | unknownTypeId code => s!"Unknown type ID: {code}"
  | unknownCause code => s!"Unknown COT: {code}"
  | sequenceMismatch expected actual =>
    s!"Sequence number mismatch: expected {expected}, got {actual}"
  | t1Timeout => "T1 timeout: no confirmation received"
  | t3Timeout => "T3 timeout: connection test failed"
  | tooManyUnconfirmed k => s!"Too many unconfirmed frames (K={k})"
  | range text => s!"Value out of range: {text}"
  | config text => s!"Invalid configuration: {text}"
  | channelClosed => "Channel closed"

def label : Fault → String
  | connection _ => "Connection"
  | notConnected => "NotConnected"
  | connectionTimeout => "ConnectionTimeout"
  | io _ => "Io"
  | protocol _ => "Protocol"
  | parsing _ => "Parsing"
  | unknownTypeId _ => "UnknownTypeId"
  | unknownCause _ => "UnknownCot"
  | sequenceMismatch .. => "SequenceMismatch"
  | t1Timeout => "T1Timeout"
  | t3Timeout => "T3Timeout"
  | tooManyUnconfirmed _ => "TooManyUnconfirmed"
  | range _ => "Range"
  | config _ => "Config"
  | channelClosed => "ChannelClosed"

/-- Whether the fault lies with the connection itself. -/
def isConnection : Fault → Bool
  | connection _ | notConnected | connectionTimeout | io _ | channelClosed => true
  | _ => false

/-- Whether the fault is a protocol timeout that ran out. -/
def isTimeout : Fault → Bool
  | connectionTimeout | t1Timeout | t3Timeout => true
  | _ => false

end Fault

end Telecontrol
