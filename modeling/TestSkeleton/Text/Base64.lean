/-!
# Base 64

Decoding of bytes written in base 64. Characters outside the alphabet are passed over, and padding
counts only where it can end the data.
-/

namespace TestSkeleton.Text

/-- The value of a character of the alphabet. -/
def base64Value? (c : Char) : Option Nat :=
  let n := c.toNat
  if 'A' ≤ c ∧ c ≤ 'Z' then some (n - 0x41)
  else if 'a' ≤ c ∧ c ≤ 'z' then some (n - 0x61 + 26)
  else if '0' ≤ c ∧ c ≤ '9' then some (n - 0x30 + 52)
  else if c = '+' then some 62
  else if c = '/' then some 63
  else none

-- Decodes the characters that follow `quad` values of a group whose last bits are `left`; `pads`
-- padding characters came just before, and `done` holds the bytes so far, the last one first.
private def base64From (quad left pads : Nat) (done : List UInt8) :
    List Char → Option (List UInt8)
  | [] => if quad = 0 then some done.reverse else none
  | '=' :: rest =>
    if 2 ≤ quad then
      if 4 ≤ quad + pads + 1 then some done.reverse else base64From quad left (pads + 1) done rest
    else base64From quad left pads done rest
  | c :: rest =>
    match base64Value? c, quad with
    | none, _ => base64From quad left pads done rest
    | some v, 0 => base64From 1 v 0 done rest
    | some v, 1 => base64From 2 (v % 16) 0 (UInt8.ofNat (left * 4 + v / 16) :: done) rest
    | some v, 2 => base64From 3 (v % 4) 0 (UInt8.ofNat (left * 16 + v / 4) :: done) rest
    | some v, _ => base64From 0 0 0 (UInt8.ofNat (left * 64 + v) :: done) rest

/-- The bytes that a text spells in base 64. -/
def base64Decode? (s : String) : Option (List UInt8) := base64From 0 0 0 [] s.toList

end TestSkeleton.Text
