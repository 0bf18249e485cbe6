-- Binary numbers of 64 bits, held exactly. A decimal number is rounded to the nearest one, a
-- tie going to the even significand. A number is written with the fewest digits that read
-- back as the same number.

namespace SourceAudit.Number

/-- A number `significand · 2 ^ exponent` with at most 53 bits, an infinity, or no number.
The exponent is the least possible one, and never below -1074. -/
inductive Binary64 where
  | finite (negative : Bool) (significand : Nat) (exponent : Int)
  | infinite (negative : Bool)
  | nan
  deriving DecidableEq, Repr

namespace Binary64

/-! ## Rounding -/

/-- The whole number nearest to a quotient; a tie goes to the even one. -/
def roundQuotient (num den : Nat) : Nat :=
  let q := num / den
  let r := num % den
  if 2 * r < den ∨ (2 * r = den ∧ q % 2 = 0) then q else q + 1

/-- The power `base ^ e`, as a fraction. -/
def powerFraction (base : Nat) (e : Int) : Nat × Nat :=
  if 0 ≤ e then (Nat.pow base e.toNat, 1) else (1, Nat.pow base (-e).toNat)

/-- The nearest number to a positive fraction. -/
def ofFraction (negative : Bool) (num den : Nat) : Binary64 :=
  let guess : Int := (Nat.log2 num : Int) - Nat.log2 den - 52
  let (up, down) := powerFraction 2 guess
  let fitted := if num * down / (den * up) < Nat.pow 2 52 then guess - 1 else guess
  let exponent := max fitted (-1074)
  let (up, down) := powerFraction 2 exponent
  let rounded := roundQuotient (num * down) (den * up)
  let (significand, exponent) :=
    if rounded = Nat.pow 2 53 then (Nat.pow 2 52, exponent + 1) else (rounded, exponent)
  if 971 < exponent then .infinite negative else .finite negative significand exponent

/-- The nearest number to `digits · 10 ^ exponent`. -/
def ofDecimal (negative : Bool) (digits : Nat) (exponent : Int) : Binary64 :=
  let size : Int := (toString digits).length + exponent
  if digits = 0 ∨ size < -400 then .finite negative 0 (-1074)
  else if 400 < size then .infinite negative
  else
    let (up, down) := powerFraction 10 exponent
    ofFraction negative (digits * up) down

/-- The number as a fraction, its sign apart. -/
def fraction (significand : Nat) (exponent : Int) : Nat × Nat :=
  let (up, down) := powerFraction 2 exponent
  (significand * up, down)

/-- The number with the other sign. -/
def negate : Binary64 → Binary64
  | finite negative significand exponent => .finite (!negative) significand exponent
  | infinite negative => .infinite (!negative)
  | nan => .nan

/-- The nearest number to a natural number. -/
def ofNat (n : Nat) : Binary64 :=
  if n = 0 then .finite false 0 (-1074) else ofFraction false n 1

/-- The significand of a number with the sign, for an exponent that is not above its own. -/
def signedUnits (negative : Bool) (significand : Nat) (exponent least : Int) : Int :=
  let units : Int := (significand * Nat.pow 2 (exponent - least).toNat : Nat)
  if negative then -units else units

/-- The nearest number to a sum. A sum of zeros is negative if both are. -/
def sum : Binary64 → Binary64 → Binary64
  | nan, _ | _, nan => .nan
  | infinite p, infinite q => if p = q then .infinite p else .nan
  | infinite p, _ | _, infinite p => .infinite p
  | finite p m e, finite q n f =>
    let least := min e f
    let units := signedUnits p m e least + signedUnits q n f least
    if units = 0 then .finite (p && q && m == 0 && n == 0) 0 (-1074)
    else
      let (up, down) := powerFraction 2 least
      ofFraction (units < 0) (units.natAbs * up) down

/-- The nearest number to a product. -/
def product : Binary64 → Binary64 → Binary64
  | nan, _ | _, nan => .nan
  | infinite p, infinite q => .infinite (p != q)
  | infinite p, finite q n _ | finite q n _, infinite p =>
    if n = 0 then .nan else .infinite (p != q)
  | finite p m e, finite q n f =>
    if m * n = 0 then .finite (p != q) 0 (-1074)
    else
      let (up, down) := powerFraction 2 (e + f)
      ofFraction (p != q) (m * n * up) down

/-! ## The fewest digits -/

/-- The least `k`, counted up from `k`, for which `num · 10 ^ k` reaches `den`. -/
def firstScale (num den : Nat) : (tries : Nat) → (k : Nat) → Nat
  | 0, k => k
  | tries + 1, k => if den ≤ num * Nat.pow 10 k then k else firstScale num den tries (k + 1)

/-- The exponent of the leading decimal digit of a positive fraction. -/
def leadingExponent (num den : Nat) : Int :=
  if den ≤ num then ((toString (num / den)).length : Int) - 1
  else -(firstScale num den 400 1 : Int)

/-- The decimal number with `count` digits that stands for the fraction `num / den`, as digits
and the power of ten of the last one, if one of that length reads back. Of two, the nearer one
is taken, and of two as near the even one. -/
def decimalOfLength? (num den count : Nat) : Option (Nat × Int) :=
  let scale := leadingExponent num den - (count : Int) + 1
  let (up, down) := powerFraction 10 scale
  let below := num * down / (den * up)
  let exact := ofFraction false num den
  let readsBack (digits : Nat) : Bool := ofDecimal false digits scale == exact
  match readsBack below, readsBack (below + 1) with
  | true, true => some (roundQuotient (num * down) (den * up), scale)
  | true, false => some (below, scale)
  | false, true => some (below + 1, scale)
  | false, false => none

/-- The decimal number with the fewest digits that reads back, among lengths from `count` on. -/
def shortestFrom (num den : Nat) : (more : Nat) → (count : Nat) → Nat × Int
  | 0, count => (decimalOfLength? num den count).getD (0, 0)
  | more + 1, count =>
    match decimalOfLength? num den count with
    | some found => found
    | none => shortestFrom num den more (count + 1)

/-! ## Written form -/

/-- Digits with a point behind the first `point` of them; zeros fill either side. -/
def positional (digits : List Char) (point : Int) : List Char :=
  if point ≤ 0 then '0' :: '.' :: List.replicate (-point).toNat '0' ++ digits
  else
    let whole := point.toNat
    let fill := List.replicate (whole - digits.length) '0'
    let part := digits.drop whole
    digits.take whole ++ fill ++ '.' :: (if part.isEmpty then ['0'] else part)

/-- Digits with a point behind the first, and a power of ten of two digits or more. -/
def scientific (digits : List Char) (exponent : Int) : List Char :=
  let power := (toString exponent.natAbs).toList
  let sign := if exponent < 0 then '-' else '+'
  let fill := if power.length < 2 then ['0'] else []
  let mantissa :=
    match digits with
    | [] => ['0']
    | [d] => [d]
    | d :: part => d :: '.' :: part
  mantissa ++ 'e' :: sign :: fill ++ power

/-- The written form. Numbers from 0.0001 to below ten to the 16th are written out. -/
def text : Binary64 → String
  | .nan => "nan"
  | .infinite negative => if negative then "-inf" else "inf"
  | .finite negative significand exponent =>
    let sign := if negative then ['-'] else []
    if significand = 0 then String.ofList (sign ++ ['0', '.', '0'])
    else
      let (num, den) := fraction significand exponent
      let (digits, scale) := shortestFrom num den 16 1
      let shown := (toString digits).toList
      let point : Int := shown.length + scale
      let shown := (shown.reverse.dropWhile (· == '0')).reverse
      String.ofList
        (sign ++ if -4 < point ∧ point ≤ 16 then positional shown point
          else scientific shown (point - 1))

/-- The number is zero, of either sign. -/
def isZero : Binary64 → Bool
  | .finite _ significand _ => significand == 0
  | _ => false

/-- The whole number that the number is, if it is one. -/
def toInt? : Binary64 → Option Int
  | .finite negative significand exponent =>
    let (up, down) := powerFraction 2 exponent
    if significand * up % down = 0 then
      let magnitude : Int := (significand * up / down : Nat)
      some (if negative then -magnitude else magnitude)
    else none
  | _ => none

end Binary64

end SourceAudit.Number
