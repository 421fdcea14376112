import Telecontrol.Text.Combining
import Telecontrol.Text.Invisible
import Telecontrol.Text.Unassigned

/-!
# Diagnostic text

The shapes in which values appear in messages and diagnostics.

* `Text.padded`, `Text.hexOctet`: numbers of a fixed number of digits.
* `Text.duration`: a time span in the largest unit that it fills.
* `Text.standsAlone`, `Text.quoted`: a string in double quotes, in which every character can be seen.
* `Text.record`: a named record with its fields, on one line.
-/

namespace Telecontrol.Text

/-- `n` in decimal with at least `w` digits, zeros in front. -/
def padded (w n : Nat) : String :=
  let digits := toString n
  String.ofList (List.replicate (w - digits.length) '0') ++ digits

/-- The hexadecimal digit of a value below 16, in upper case. -/
def hexDigit (n : Nat) : Char :=
  if n < 10 then Char.ofNat (48 + n) else Char.ofNat (55 + n)

def hexOctet (b : UInt8) : String :=
  String.ofList [hexDigit (b.toNat / 16), hexDigit (b.toNat % 16)]

/-- `n` hexadecimal in lower case without leading zeros. -/
def hexLower (n : Nat) : String := String.ofList (Nat.toDigits 16 n)

/-- The decimal places of `thousandths`, without zeros at the end. -/
def decimals (thousandths : Nat) : String :=
  if thousandths = 0 then ""
  else if thousandths % 100 = 0 then s!".{thousandths / 100}"
  else if thousandths % 10 = 0 then "." ++ padded 2 (thousandths / 10)
  else "." ++ padded 3 thousandths

/-- A time span given in milliseconds: in seconds from one second on, else in milliseconds. -/
def duration (ms : Nat) : String :=
  if ms = 0 then "0ns"
  else if ms < 1000 then s!"{ms}ms"
  else s!"{ms / 1000}{decimals (ms % 1000)}s"

/-- Whether a character can be seen by itself: it has a shape, and not one drawn onto the character
before it. -/
def standsAlone (c : Char) : Bool :=
  !(invisible.contains c || combining.contains c || unassigned.contains c)

/-- A character inside a quoted string. Quotes, backslashes and the usual control characters have short
forms; any other character that cannot be seen by itself is written by its code point. -/
def escaped (c : Char) : String :=
  if c = '"' then "\\\""
  else if c = '\\' then "\\\\"
  else if c = '\n' then "\\n"
  else if c = '\r' then "\\r"
  else if c = '\t' then "\\t"
  else if c.toNat = 0 then "\\0"
  else if standsAlone c then String.singleton c
  else "\\u\x7b" ++ hexLower c.toNat ++ "\x7d"

def quoted (s : String) : String :=
  "\"" ++ String.join (s.toList.map escaped) ++ "\""

/-- A record with its fields on one line. With `hidden` the record has further fields, which are not
shown. -/
def record (name : String) (fields : List (String × String)) (hidden : Bool) : String :=
  let shown := fields.map fun (field, value) => field ++ ": " ++ value
  let parts := if hidden then shown ++ [".."] else shown
  name ++ " \x7b " ++ ", ".intercalate parts ++ " \x7d"

end Telecontrol.Text
