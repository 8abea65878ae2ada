/-!
# The fewest digits that identify a float

A positive finite float is `m * 2 ^ q` with whole `m` and `q`. The reals that round to it form an
interval that reaches half way to the floats below and above, with its ends included exactly when
`m` is even. Among the decimals in that interval the one with the fewest digits is selected, and
of several with that many digits the one nearest to the float.

* `Binary.contains` is the test for the interval.
* `Binary.shortest` selects the decimal.

All of it is arithmetic on whole numbers.
-/

namespace Cellwise.Decimal

/-- A power of two; one for negative exponents. -/
def twoTo (n : Int) : Nat := Nat.pow 2 n.toNat

/-- A power of ten; one for negative exponents. -/
def tenTo (n : Int) : Nat := Nat.pow 10 n.toNat

/-- The magnitude `m * 2 ^ q` of a finite float. -/
structure Binary where
  m : Nat
  q : Int
  /-- The float below is half as far away as the float above. -/
  narrow : Bool
  deriving DecidableEq, Repr

/-- The magnitude of the finite float with these bits. -/
def Binary.ofBits (bits : UInt64) : Binary :=
  let exponent := ((bits >>> 52) &&& 0x7FF).toNat
  let fraction := (bits &&& 0xFFFFFFFFFFFFF).toNat
  if exponent = 0 then { m := fraction, q := -1074, narrow := false }
  else { m := 0x10000000000000 + fraction, q := exponent - 1075, narrow := fraction = 0 ∧ 1 < exponent }

/-- The decimal `digits * 10 ^ exponent`. -/
structure Scientific where
  digits : Nat
  exponent : Int
  deriving DecidableEq, Repr

/-- Compares `a * 10 ^ i` with `n * 2 ^ j`. -/
def compareScaled (a : Nat) (i : Int) (n : Nat) (j : Int) : Ordering :=
  compare (a * tenTo i * twoTo (-j)) (n * twoTo j * tenTo (-i))

namespace Binary

/-- Is the decimal one of the reals that round to the float? Four times `m` keeps the ends of the
interval whole. -/
def contains (x : Binary) (d : Scientific) : Bool :=
  -- Half way down, or half of that where the floats below lie twice as dense.
  let low := if x.narrow then 4 * x.m - 1 else 4 * x.m - 2
  let high := 4 * x.m + 2
  let ends := x.m % 2 = 0
  let fromLow := compareScaled d.digits d.exponent low (x.q - 2)
  let toHigh := compareScaled d.digits d.exponent high (x.q - 2)
  (fromLow = .gt || (ends && fromLow = .eq)) && (toHigh = .lt || (ends && toHigh = .eq))

/-- The least `k` with `m * 2 ^ q < 10 ^ k`, found near the estimate that the binary logarithm
gives. -/
def magnitude (x : Binary) : Int :=
  let estimate := Int.fdiv ((x.m.log2 + x.q) * 1233) 4096
  let window := [estimate - 1, estimate, estimate + 1, estimate + 2, estimate + 3]
  (window.find? fun k => compareScaled 1 k x.m x.q = .gt).getD (estimate + 3)

/-- The whole part of `m * 2 ^ q / 10 ^ g`. -/
def gridFloor (x : Binary) (g : Int) : Nat :=
  (x.m * twoTo x.q * tenTo (-g)) / (twoTo (-x.q) * tenTo g)

/-- The decimal nearest to the float on the grid of multiples of `10 ^ g`, if a neighbour of the
float on that grid lies in the interval. Of two neighbours equally near, the even one is taken. -/
def onGrid (x : Binary) (g : Int) : Option Scientific :=
  let below := x.gridFloor g
  let lower : Scientific := ⟨below, g⟩
  let upper : Scientific := ⟨below + 1, g⟩
  match x.contains lower, x.contains upper with
  | false, false => none
  | true, false => some lower
  | false, true => some upper
  | true, true =>
    -- The middle between the neighbours tells which one is nearer.
    match compareScaled (2 * below + 1) g (2 * x.m) x.q with
    | .gt => some lower
    | .lt => some upper
    | .eq => some (if below % 2 = 0 then lower else upper)

/-- The exact decimal value of the float. -/
def exact (x : Binary) : Scientific :=
  ⟨x.m * twoTo x.q * Nat.pow 5 (-x.q).toNat, -((-x.q).toNat : Int)⟩

/-- Moves up to `fuel` trailing zeros of the digits into the exponent. -/
def dropZeros : Nat → Scientific → Scientific
  | 0, d => d
  | fuel + 1, d =>
    if d.digits ≠ 0 ∧ d.digits % 10 = 0 then dropZeros fuel ⟨d.digits / 10, d.exponent + 1⟩ else d

/-- The decimal with the fewest digits that rounds to the float. Seventeen digits always suffice. -/
def shortest (x : Binary) : Scientific :=
  let k := x.magnitude
  let found := (List.range 17).findSome? fun n : Nat => x.onGrid (k - (n + 1))
  let d := found.getD x.exact
  dropZeros d.digits.log2 d

end Binary

end Cellwise.Decimal
