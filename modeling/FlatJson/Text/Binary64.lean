import FlatJson.Text.Numeral

/-!
# Shortest decimals

A binary floating point number is written with the fewest decimal digits that still lie nearer to
it than to any other such number; among equally short ones with the nearest. The value is
`mantissa * 2 ^ exponent`, and comparisons with a decimal are made in whole numbers.

* `Binary64.readsBack` says that a decimal rounds to the number.
* `Binary64.shortest` is the shortest such decimal, `floatText` its written form.
-/

namespace FlatJson

/-- The size of a finite floating point number. -/
structure Binary64 where
  /-- The binary digits. -/
  mantissa : Nat
  /-- The power of two of the last binary digit. -/
  exponent : Int
  /-- The number below is half as far away as the number above. -/
  narrowBelow : Bool

namespace Binary64

/-- The size that the bits of a finite floating point number stand for. -/
def ofBits (bits : UInt64) : Binary64 :=
  let exponent := ((bits >>> 52) &&& 0x7ff).toNat
  let fraction := (bits &&& 0xfffffffffffff).toNat
  if exponent = 0 then ⟨fraction, -1074, false⟩
  else ⟨Nat.pow 2 52 + fraction, exponent - 1075, fraction == 0 && exponent > 1⟩

variable (x : Binary64)

/-- A factor that makes a quarter of the last binary digit a whole number, next to `decimalUnit`. -/
def binaryUnit (power : Int) : Nat :=
  Nat.pow 2 (x.exponent - 2).toNat * Nat.pow 10 (-power).toNat

/-- A factor that makes a decimal digit of this power of ten a whole number, next to
`binaryUnit`. -/
def decimalUnit (power : Int) : Nat :=
  Nat.pow 10 power.toNat * Nat.pow 2 (2 - x.exponent).toNat

/-- The decimal `digits * 10 ^ power` is not beyond the middle between the number and one of its
neighbours; the middle itself belongs to the number with the even mantissa. -/
def readsBack (power : Int) (digits : Nat) : Bool :=
  let low := (4 * x.mantissa - if x.narrowBelow then 1 else 2) * x.binaryUnit power
  let high := (4 * x.mantissa + 2) * x.binaryUnit power
  let value := digits * x.decimalUnit power
  if x.mantissa % 2 = 0 then low ≤ value && value ≤ high else low < value && value < high

/-- The nearest decimal with this power of ten in its last digit that reads back, the even one of
two that are equally near. -/
def nearestOn? (power : Int) : Option Nat :=
  let value := 4 * x.mantissa * x.binaryUnit power
  let below := value / x.decimalUnit power
  let above := below + 1
  let twice := (below + above) * x.decimalUnit power
  let belowNearer := 2 * value < twice || (2 * value == twice && below % 2 == 0)
  match x.readsBack power below, x.readsBack power above with
  | true, true => some (if belowNearer then below else above)
  | true, false => some below
  | false, true => some above
  | false, false => none

/-- The shortest decimal that reads back, as digits and a power of ten. The last power tried is so
small that every number is a decimal with it. -/
def shortest : Nat × Int :=
  ((List.range 1400).findSome? fun (i : Nat) =>
    let power : Int := 309 - i
    (x.nearestOn? power).map (·, power)).getD (0, 0)

end Binary64

/-- A decimal with a point: behind the first digit and with a power of ten for numbers from 10^16
on and below 10^-4, in its place for the others; the point has a digit on both sides. -/
def decimalText (digits : Nat) (power : Int) : Text :=
  let row := decimal digits
  let lead := power + row.length - 1
  if digits = 0 then ['0', '.', '0']
  else if -4 ≤ lead ∧ lead < 16 then
    if lead < 0 then '0' :: '.' :: List.replicate (-lead - 1).toNat '0' ++ row
    else if power < 0 then row.take (lead.toNat + 1) ++ '.' :: row.drop (lead.toNat + 1)
    else row ++ List.replicate power.toNat '0' ++ ['.', '0']
  else
    let mantissa := if row.length = 1 then row else row.take 1 ++ '.' :: row.drop 1
    let sign := if lead < 0 then '-' else '+'
    let size := if lead.natAbs < 10 then padded 2 lead.natAbs else decimal lead.natAbs
    mantissa ++ 'e' :: sign :: size

/-- The written form of a floating point number. -/
def floatText (x : Float) : Text :=
  let size := if x.isFinite then
      let (digits, power) := (Binary64.ofBits x.toBits).shortest
      decimalText digits power
    else ['i', 'n', 'f']
  if x.isNaN then ['n', 'a', 'n'] else if x.toBits >>> 63 = 1 then '-' :: size else size

end FlatJson
