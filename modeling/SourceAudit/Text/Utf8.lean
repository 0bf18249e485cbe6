-- UTF-8. A byte sequence is read one character at a time; the first place where it cannot be
-- read is reported with the bytes that were good so far. Code points that are surrogates have
-- no form in UTF-8, so a sequence of code points can fail too.

namespace SourceAudit.Text

/-! ## Writing -/

/-- The bytes of one character. -/
def utf8Char (c : Char) : List UInt8 :=
  let n := c.toNat
  if n < 0x80 then [UInt8.ofNat n]
  else if n < 0x800 then [UInt8.ofNat (0xC0 + n / 64), UInt8.ofNat (0x80 + n % 64)]
  else if n < 0x10000 then
    [UInt8.ofNat (0xE0 + n / 4096), UInt8.ofNat (0x80 + n / 64 % 64), UInt8.ofNat (0x80 + n % 64)]
  else
    [UInt8.ofNat (0xF0 + n / 262144), UInt8.ofNat (0x80 + n / 4096 % 64),
      UInt8.ofNat (0x80 + n / 64 % 64), UInt8.ofNat (0x80 + n % 64)]

/-- The bytes of a text. -/
def utf8 (cs : List Char) : List UInt8 :=
  cs.flatMap utf8Char

/-! ## Reading -/

/-- Why bytes are not UTF-8. -/
inductive Utf8Problem where
  | startByte
  | continuationByte
  | endOfData
  deriving DecidableEq, Repr

/-- The place where bytes stop being UTF-8: the first byte of the character that cannot be
read, and how many bytes of it there are. -/
structure Utf8Fault where
  position : Nat
  lead : UInt8
  length : Nat
  problem : Utf8Problem
  deriving DecidableEq, Repr

/-- A byte that continues a character. -/
def isContinuation (b : UInt8) : Bool :=
  0x80 ≤ b && b ≤ 0xBF

/-- The second byte may stand behind the first. Four first bytes restrict it further, against
overlong forms, surrogates and points beyond the last. -/
def secondFits (a b : UInt8) : Bool :=
  if a == 0xE0 then 0xA0 ≤ b && b ≤ 0xBF
  else if a == 0xED then 0x80 ≤ b && b ≤ 0x9F
  else if a == 0xF0 then 0x90 ≤ b && b ≤ 0xBF
  else if a == 0xF4 then 0x80 ≤ b && b ≤ 0x8F
  else isContinuation b

/-- The six low bits of a continuation byte. -/
def payloadBits (b : UInt8) : Nat :=
  b.toNat % 64

/-- Reads on behind `done`, nearest character first, at a byte position. -/
def readUtf8From (done : List Char) (position : Nat) :
    List UInt8 → Except Utf8Fault (List Char)
  | [] => .ok done.reverse
  | a :: rest =>
    if a < 0x80 then readUtf8From (Char.ofNat a.toNat :: done) (position + 1) rest
    else if a < 0xC2 || 0xF5 ≤ a then .error ⟨position, a, 1, .startByte⟩
    else match rest with
      | [] => .error ⟨position, a, 1, .endOfData⟩
      | b :: rest =>
        if !secondFits a b then .error ⟨position, a, 1, .continuationByte⟩
        else if a < 0xE0 then
          readUtf8From (Char.ofNat (a.toNat % 32 * 64 + payloadBits b) :: done) (position + 2) rest
        else match rest with
          | [] => .error ⟨position, a, 2, .endOfData⟩
          | c :: rest =>
            if !isContinuation c then .error ⟨position, a, 2, .continuationByte⟩
            else if a < 0xF0 then
              readUtf8From
                (Char.ofNat (a.toNat % 16 * 4096 + payloadBits b * 64 + payloadBits c) :: done)
                (position + 3) rest
            else match rest with
              | [] => .error ⟨position, a, 3, .endOfData⟩
              | d :: rest =>
                if !isContinuation d then .error ⟨position, a, 3, .continuationByte⟩
                else
                  readUtf8From
                    (Char.ofNat (a.toNat % 8 * 262144 + payloadBits b * 4096 +
                      payloadBits c * 64 + payloadBits d) :: done)
                    (position + 4) rest

/-- The characters that a byte sequence stands for. -/
def readUtf8 (bytes : List UInt8) : Except Utf8Fault (List Char) :=
  readUtf8From [] 0 bytes

/-! ## Code points -/

/-- Any code point, a surrogate included. -/
abbrev CodePoint := Fin 0x110000

/-- A code point that only stands for half a character elsewhere. -/
def CodePoint.isSurrogate (p : CodePoint) : Bool :=
  0xD800 ≤ p.val && p.val ≤ 0xDFFF

/-- The first surrogate of a sequence of code points, and how many stand in a row there. -/
structure SurrogateFault where
  position : Nat
  point : CodePoint
  length : Nat
  deriving DecidableEq, Repr

/-- Looks for the first surrogate from a position on. -/
def findSurrogate (position : Nat) : List CodePoint → Option SurrogateFault
  | [] => none
  | p :: rest =>
    if p.isSurrogate then
      some ⟨position, p, 1 + (rest.takeWhile CodePoint.isSurrogate).length⟩
    else findSurrogate (position + 1) rest

/-- The characters that code points stand for, unless a surrogate is among them. -/
def readCodePoints (points : List CodePoint) : Except SurrogateFault (List Char) :=
  match findSurrogate 0 points with
  | some fault => .error fault
  | none => .ok (points.map (Char.ofNat ·.val))

end SourceAudit.Text
