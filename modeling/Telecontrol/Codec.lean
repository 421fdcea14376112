import Telecontrol.Apdu

/-!
# Codecs

The codec of a byte stream makes frames of the octets that come in and octets of the frames that go out.
Whoever observes the stream sees every whole frame, whichever way it goes.

* `Codec`: the octets that wait on either side, and what was seen so far.
* `Codec.feed`, `Codec.decode`, `Codec.decodeAll`: receiving.
* `Codec.encode`: sending.
-/

namespace Telecontrol

/-- A frame that was seen, and which way it went. -/
structure Sighting where
  direction : Direction
  octets : Octets
  deriving DecidableEq, Repr, Inhabited

/-- The codec of a byte stream: octets that have come in and were not decoded, octets that are to
go out, and the frames that were seen, in order. -/
structure Codec where
  source : Octets := []
  target : Octets := []
  seen : List Sighting := []
  deriving DecidableEq, Repr, Inhabited

namespace Codec

def feed (c : Codec) (bs : Octets) : Codec := { c with source := c.source ++ bs }

/-- Decodes the frame at the front of the source, if there is a whole one. A malformed frame is taken
off the source all the same. -/
def decode (c : Codec) : Codec × Except Fault (Option Apdu) :=
  match Apdu.decode c.source with
  | .incomplete => (c, .ok none)
  | .refused fault => (c, .error fault)
  | .frame octets rest content =>
    ({ c with source := rest, seen := c.seen ++ [⟨.received, octets⟩] }, content.map some)

theorem length_source_lt {c c' : Codec} {a : Apdu} (h : c.decode = (c', .ok (some a))) :
    c'.source.length < c.source.length := by
  unfold decode at h
  split at h
  · cases h
  · cases h
  · obtain ⟨rfl, -⟩ := Prod.mk.inj h
    exact Apdu.length_rest_lt (by assumption)

/-- Decodes frame after frame until there is no whole one or a fault ends the stream. -/
def decodeAll (c : Codec) : Codec × List Apdu × Option Fault :=
  match _h : c.decode with
  | (c, .ok none) => (c, [], none)
  | (c, .ok (some a)) =>
    let (c, apdus, fault) := decodeAll c
    (c, a :: apdus, fault)
  | (c, .error fault) => (c, [], some fault)
  termination_by c.source.length
  decreasing_by exact length_source_lt (by assumption)

/-- Writes a frame behind the octets that are to go out. A frame that cannot be encoded changes
nothing. -/
def encode (c : Codec) (a : Apdu) : Codec × Except Fault Unit :=
  match a.encode with
  | .ok octets =>
    ({ c with target := c.target ++ octets, seen := c.seen ++ [⟨.sent, octets⟩] }, .ok ())
  | .error fault => (c, .error fault)

end Codec

end Telecontrol
