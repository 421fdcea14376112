import Telecontrol.Octets

/-!
# Field layouts

Every element of an information object is a fixed-width record of fields that lie back to back.

* `Layout`: the width of a field, how a value of it is written and how it is read off the front of an
  octet string; reading fails exactly on a string that is too short.
* `Layout.octet`, `Layout.word16`, `Layout.word32`, `Layout.nothing`: the primitive fields.
* `Layout.followedBy`: two fields back to back; `Layout.map`: a field seen as another type;
  `Layout.packed`: a value that shares one octet.
-/

namespace Telecontrol

/-- A field of fixed width on the wire. It reads the value at the front of an octet string and
leaves the octets behind it. -/
structure Layout (α : Type) where
  size : Nat
  write : α → Octets
  read : Octets → Option (α × Octets)

namespace Layout

def nothing : Layout Unit where
  size := 0
  write _ := []
  read bs := some ((), bs)

def octet : Layout UInt8 where
  size := 1
  write b := [b]
  read
    | b :: rest => some (b, rest)
    | [] => none

/-- A number of `w` octets. -/
def number (w : Nat) : Layout Nat where
  size := w
  write n := Octets.ofNat w n
  read bs := (Octets.split? w bs).map fun (field, rest) => (Octets.toNat field, rest)

/-- The same field seen through another type. -/
def map {α β : Type} (view : α → β) (back : β → α) (field : Layout α) : Layout β where
  size := field.size
  write b := field.write (back b)
  read bs := (field.read bs).map fun (a, rest) => (view a, rest)

/-- Two fields back to back. -/
def followedBy {α β : Type} (first : Layout α) (second : Layout β) : Layout (α × β) where
  size := first.size + second.size
  write ab := first.write ab.1 ++ second.write ab.2
  read bs := do
    let (a, rest) ← first.read bs
    let (b, rest) ← second.read rest
    return ((a, b), rest)

/-- A value that is packed into one octet. -/
def packed {α : Type} (view : UInt8 → α) (back : α → UInt8) : Layout α :=
  octet.map view back

def word16 : Layout UInt16 := (number 2).map UInt16.ofNat UInt16.toNat

def word32 : Layout UInt32 := (number 4).map UInt32.ofNat UInt32.toNat

end Layout

end Telecontrol
