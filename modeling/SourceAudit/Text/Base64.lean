-- Bytes written with sixty-four characters, six bits each. Characters that have no such meaning are
-- skipped, and equals signs fill up the last group of four.

namespace SourceAudit.Text

/-- The six bits that a character stands for. -/
def sixBits? (c : Char) : Option Nat :=
  if 'A' ≤ c ∧ c ≤ 'Z' then some (c.toNat - 65)
  else if 'a' ≤ c ∧ c ≤ 'z' then some (c.toNat - 71)
  else if '0' ≤ c ∧ c ≤ '9' then some (c.toNat + 4)
  else if c = '+' then some 62
  else if c = '/' then some 63
  else none

/-- Reads bytes, where `done` has been read, nearest byte first; `place` characters of the present
group have been read and `fills` signs behind them, and `left` holds the bits that are not yet
part of a byte. -/
def base64From (done : List UInt8) (place fills left : Nat) : List Char → Option (List UInt8)
  | [] => if place = 0 then some done.reverse else none
  | c :: rest =>
    if c = '=' then
      if place < 2 then base64From done place fills left rest
      else if 4 ≤ place + fills + 1 then some done.reverse
      else base64From done place (fills + 1) left rest
    else
      match sixBits? c, place with
      | none, _ => base64From done place fills left rest
      | some bits, 0 => base64From done 1 0 bits rest
      | some bits, 1 => base64From (UInt8.ofNat (left * 4 + bits / 16) :: done) 2 0 (bits % 16) rest
      | some bits, 2 => base64From (UInt8.ofNat (left * 16 + bits / 4) :: done) 3 0 (bits % 4) rest
      | some bits, _ => base64From (UInt8.ofNat (left * 64 + bits) :: done) 0 0 0 rest

/-- The bytes that a text stands for. It must not end inside of a group. -/
def readBase64 (cs : List Char) : Option (List UInt8) :=
  base64From [] 0 0 0 cs

end SourceAudit.Text
