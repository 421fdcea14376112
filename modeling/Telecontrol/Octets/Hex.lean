import Telecontrol.Octets

/-!
# Hexadecimal text of octet strings

* `Octets.hex`: two lower-case digits for every octet.
* `Octets.ofHex?`: reads such a text back; digits may be in either case.
-/

namespace Telecontrol.Octets

def hexDigit (n : Nat) : Char :=
  if n < 10 then Char.ofNat (48 + n) else Char.ofNat (87 + n)

def hexValue? (c : Char) : Option Nat :=
  if '0' ≤ c ∧ c ≤ '9' then some (c.toNat - 48)
  else if 'a' ≤ c ∧ c ≤ 'f' then some (c.toNat - 87)
  else if 'A' ≤ c ∧ c ≤ 'F' then some (c.toNat - 55)
  else none

def hexDigits (bs : Octets) : List Char :=
  bs.flatMap fun b => [hexDigit (b.toNat / 16), hexDigit (b.toNat % 16)]

/-- The octet string of a list of digits, of which there must be an even number. -/
def ofHexDigits? : List Char → Option Octets
  | [] => some []
  | high :: low :: rest => do
    let octet := UInt8.ofNat (16 * (← hexValue? high) + (← hexValue? low))
    return octet :: (← ofHexDigits? rest)
  | [_] => none

def hex (bs : Octets) : String := String.ofList bs.hexDigits

def ofHex? (text : String) : Option Octets := ofHexDigits? text.toList

end Telecontrol.Octets
