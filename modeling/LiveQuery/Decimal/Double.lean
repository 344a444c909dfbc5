/-!
# Doubles in exact arithmetic

A finite 64-bit floating point number as a sign, a natural mantissa and a power of two.
`nearest?` rounds a quotient of naturals to the nearest double, a half to the even mantissa, and the
operations on doubles are the exact ones rounded by it. `ofScaled?` scales a natural number by a
power of ten in these operations, so that what is read may be off by some units in the last place.
`shortest` finds the fewest decimal digits that round back to the same double, and of those the
nearest.
-/

namespace LiveQuery

/-- The number `(-1) ^ negative * mantissa * 2 ^ exponent`. In canonical form the mantissa is
below `2 ^ 53` and the exponent is the least possible one that is at least `-1074`. -/
structure Double where
  negative : Bool
  mantissa : Nat
  exponent : Int
deriving DecidableEq, Repr, Inhabited

namespace Double

/-- The mantissas of doubles are below this. -/
def mantissaBound : Nat := Nat.pow 2 53

/-- Zero with a sign. -/
def zero (negative : Bool) : Double := ⟨negative, 0, -1074⟩

/-- Equality of the numbers: the two zeros are equal. -/
def sameNumber (a b : Double) : Bool :=
  (a.mantissa == 0 && b.mantissa == 0) || a == b

/-- The quotient `num / den / 2 ^ e` as a quotient of naturals. -/
def scaled (num den : Nat) (e : Int) : Nat × Nat :=
  if 0 ≤ e then (num, den * Nat.pow 2 e.toNat) else (num * Nat.pow 2 (-e).toNat, den)

/-- Division to the nearest natural, a half to the even one. -/
def roundDiv (num den : Nat) : Nat :=
  let q := num / den
  let r := num % den
  if den < 2 * r ∨ (2 * r = den ∧ q % 2 = 1) then q + 1 else q

/-- The exponent of the double nearest to `num / den`, before a carry out of the mantissa. The
estimate from the bit lengths is at most one too small. -/
def nearestExponent (num den : Nat) : Int :=
  let e := max (-1074) ((num.log2 : Int) - den.log2 - 53)
  let (n, d) := scaled num den e
  if mantissaBound ≤ n / d then e + 1 else e

/-- The double nearest to `num / den`; none above the largest finite one. -/
def nearest? (negative : Bool) (num den : Nat) : Option Double :=
  let e := nearestExponent num den
  let (n, d) := scaled num den e
  let m := roundDiv n d
  -- rounding up may carry into one more bit
  let (m, e) := if m = mantissaBound then (mantissaBound / 2, e + 1) else (m, e)
  if 971 < e then none else some ⟨negative, m, e⟩

/-- The number of decimal digits, one for zero. -/
def digitCount (n : Nat) : Nat := (Nat.toDigits 10 n).length

/-- Two natural numbers whose quotient is `mantissa * 2 ^ exponent / 10 ^ power`. -/
def overPower (x : Double) (power : Int) : Nat × Nat :=
  let (n, d) := if 0 ≤ x.exponent then (x.mantissa * Nat.pow 2 x.exponent.toNat, 1)
    else (x.mantissa, Nat.pow 2 (-x.exponent).toNat)
  if 0 ≤ power then (n, d * Nat.pow 10 power.toNat) else (n * Nat.pow 10 (-power).toNat, d)

/-! ## Scaling by powers of ten -/

/-- The double nearest to a natural number that is below the largest finite one. -/
def ofNat (negative : Bool) (n : Nat) : Double :=
  if n = 0 then zero negative else (nearest? negative n 1).getD (zero negative)

/-- The product with a positive double, rounded; none if it is too large. -/
def mul? (x y : Double) : Option Double :=
  if x.mantissa = 0 then some x
  else
    let (n, d) := overPower x 0
    let (n', d') := overPower y 0
    nearest? x.negative (n * n') (d * d')

/-- The quotient by a double that is at least one, rounded. -/
def div (x y : Double) : Double :=
  if x.mantissa = 0 then x
  else
    let (n, d) := overPower x 0
    let (n', d') := overPower y 0
    (nearest? x.negative (n * d') (d * n')).getD (zero x.negative)

/-- The greatest power of ten that is a finite double has this exponent. -/
def maxTenPower : Nat := 308

/-- The double nearest to a power of ten, for exponents up to `maxTenPower`. -/
def tenPower (power : Nat) : Double := ofNat false (Nat.pow 10 power)

/-- Divides by a power of ten: as often as told by the greatest one that is a double, as long as
anything is left, and then by the rest of the power. -/
def divTenPower : Nat → Double → Nat → Double
  | 0, x, power => x.div (tenPower power)
  | steps + 1, x, power =>
    if x.mantissa = 0 then x
    else divTenPower steps (x.div (tenPower maxTenPower)) (power - maxTenPower)

/-- A natural number times a power of ten, rounded after every step; none if it is too large. -/
def ofScaled? (negative : Bool) (n : Nat) (power : Int) : Option Double :=
  let x := ofNat negative n
  if 0 ≤ power then
    if x.mantissa = 0 then some x
    else if maxTenPower < power.toNat then none
    else x.mul? (tenPower power.toNat)
  else
    let power := (-power).toNat
    some (divTenPower ((power - 1) / maxTenPower) x power)

/-! ## Shortest decimals -/

/-- A positive decimal `digits * 10 ^ power`. -/
structure Decimal where
  digits : Nat
  power : Int
deriving DecidableEq, Repr, Inhabited

/-- Does `digits * 10 ^ power` lie in the reals that round to `mantissa * 2 ^ exponent`? The
ends belong to them exactly when the mantissa is even; the lower one is nearer where the
mantissa is the least of its exponent. -/
def Decimal.roundsTo (c : Decimal) (x : Double) : Bool :=
  -- in quarters of a unit the ends are natural numbers
  let e := x.exponent - 2
  let low := if x.mantissa = mantissaBound / 2 ∧ -1074 < x.exponent then 4 * x.mantissa - 1
    else 4 * x.mantissa - 2
  let high := 4 * x.mantissa + 2
  let (num, den) :=
    if 0 ≤ c.power then (c.digits * Nat.pow 10 c.power.toNat, 1)
    else (c.digits, Nat.pow 10 (-c.power).toNat)
  let (n, d) := scaled num den e
  if x.mantissa % 2 = 0 then low * d ≤ n && n ≤ high * d else low * d < n && n < high * d

/-- The decimal exponent of the first digit of a positive double. -/
def leadingPower (x : Double) : Int :=
  let (n, d) := overPower x 0
  let guess : Int := (digitCount n : Int) - digitCount d
  let (n, d) := overPower x guess
  if n < d then guess - 1 else guess

/-- The decimal with `count` digits nearest to the double among its two neighbours that round
back to it; a tie goes to the even one. -/
def shortestAt? (x : Double) (count : Nat) : Option Decimal :=
  let power := leadingPower x - count + 1
  let (n, d) := overPower x power
  let below : Decimal := ⟨n / d, power⟩
  let above : Decimal := ⟨n / d + 1, power⟩
  match below.roundsTo x, above.roundsTo x with
  | true, true => some (if roundDiv n d = below.digits then below else above)
  | true, false => some below
  | false, true => some above
  | false, false => none

/-- The first hit among growing digit counts, seventeen at most. -/
def shortestFrom (x : Double) : Nat → Nat → Decimal
  | 0, count => ⟨roundDiv (overPower x (leadingPower x - count + 1)).1
      (overPower x (leadingPower x - count + 1)).2, leadingPower x - count + 1⟩
  | left + 1, count =>
    match shortestAt? x count with
    | some c => c
    | none => shortestFrom x left (count + 1)

/-- Drops zeros at the end of the digits. -/
def Decimal.trimWith : Nat → Decimal → Decimal
  | 0, c => c
  | fuel + 1, c =>
    if c.digits % 10 = 0 ∧ c.digits ≠ 0 then trimWith fuel ⟨c.digits / 10, c.power + 1⟩ else c

/-- The fewest digits that read back as this positive double. -/
def shortest (x : Double) : Decimal := (shortestFrom x 16 1).trimWith 20

/-- How a decimal is laid out: the exponents of the first digit that are written without an
exponent mark. -/
structure Layout where
  plainFrom : Int
  plainTo : Int

/-- The digits of a natural number. -/
def digitChars (n : Nat) : List Char := Nat.toDigits 10 n

/-- A decimal laid out: plain numbers always carry a fraction, others one digit before the point
and a signed exponent. -/
def Layout.write (layout : Layout) (c : Decimal) : List Char :=
  let ds := digitChars c.digits
  let lead : Int := c.power + ds.length - 1
  if layout.plainFrom ≤ lead ∧ lead ≤ layout.plainTo then
    if 0 ≤ c.power then ds ++ List.replicate c.power.toNat '0' ++ ['.', '0']
    else if 0 ≤ lead then
      ds.take (lead.toNat + 1) ++ '.' :: ds.drop (lead.toNat + 1)
    else '0' :: '.' :: List.replicate (-lead - 1).toNat '0' ++ ds
  else
    let mantissa := match ds with
      | [] => []
      | [d] => [d]
      | d :: more => d :: '.' :: more
    let sign := if lead < 0 then '-' else '+'
    mantissa ++ 'e' :: sign :: digitChars lead.natAbs

/-- The text of a double in a layout. -/
def write (layout : Layout) (x : Double) : List Char :=
  let body := if x.mantissa = 0 then ['0', '.', '0'] else layout.write x.shortest
  if x.negative then '-' :: body else body

end Double

end LiveQuery
