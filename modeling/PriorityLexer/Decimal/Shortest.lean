import PriorityLexer.Decimal.Double

/-!
# Shortest — the fewest decimal digits that read back

Every magnitude is the rounded value of an interval of reals.  Its shortest decimal is a number of
least digits in that interval, the nearest one if there are several.

* `Double.Interval` — the reals that are rounded to a magnitude;
* `Double.shortest` — digits and exponent of the shortest decimal;
* `Double.text` — its notation: positional from `1e-5` up to below `1e16`, with a point always
  there, and scientific elsewhere, with a sign always before the exponent.
-/

namespace PriorityLexer.Double

/-! ## Intervals -/

/-- The reals between `low / den` and `high / den`, around `value / den`. -/
structure Interval where
  low : Nat
  value : Nat
  high : Nat
  den : Nat
  /-- Whether the ends belong to the interval. -/
  closed : Bool

/-- The reals that are rounded to a magnitude: up to the middle of the way to its neighbours, of
which the lower one is nearer where the exponent changes. -/
def interval (d : Double) : Interval :=
  let (n, den) := scaled 1 d.exponent
  let below := if d.mantissa = .pow 2 52 ∧ leastExponent < d.exponent then 1 else 2
  ⟨(4 * d.mantissa - below) * n, 4 * d.mantissa * n, (4 * d.mantissa + 2) * n, 4 * den,
    d.mantissa % 2 = 0⟩

/-- Whether the fraction `num / den` lies in the interval. -/
def Interval.contains (i : Interval) (num den : Nat) : Bool :=
  if i.closed then i.low * den ≤ num * i.den && num * i.den ≤ i.high * den
  else i.low * den < num * i.den && num * i.den < i.high * den

/-! ## Decimals -/

/-- The number `digits * 10 ^ exponent`. -/
structure Decimal where
  digits : Nat
  exponent : Int
deriving DecidableEq, Repr

/-- Numerator and denominator of `n * 10 ^ e`. -/
def tenfold (n : Nat) (e : Int) : Nat × Nat :=
  (n * .pow 10 e.toNat, .pow 10 (-e).toNat)

/-- The multiple of `10 ^ exponent` in the interval that is nearest to the value, the even one of
two. -/
def Interval.onGrid? (i : Interval) (exponent : Int) : Option Decimal :=
  let (n, d) := tenfold 1 exponent
  let floor := i.value * d / (i.den * n)
  let inside (k : Nat) : Bool := i.contains (k * n) d
  let nearest := roundDiv (i.value * d) (i.den * n)
  if inside nearest then some ⟨nearest, exponent⟩
  else if inside floor then some ⟨floor, exponent⟩
  else if inside (floor + 1) then some ⟨floor + 1, exponent⟩
  else none

/-- The first grid with a decimal in the interval, from coarse to fine. -/
def Interval.search (i : Interval) : Nat → Int → Decimal
  | 0, exponent => (i.onGrid? exponent).getD ⟨0, 0⟩
  | fuel + 1, exponent =>
    match i.onGrid? exponent with
    | some d => if d.digits = 0 then i.search fuel (exponent - 1) else d
    | none => i.search fuel (exponent - 1)

/-- The number of decimal digits of a whole number. -/
def digitCount (n : Nat) : Nat := (Nat.toDigits 10 n).length

/-- Moves zeros at the end of the digits into the exponent. -/
def Decimal.trim : Nat → Decimal → Decimal
  | 0, d => d
  | fuel + 1, d =>
    if d.digits ≠ 0 ∧ d.digits % 10 = 0 then trim fuel ⟨d.digits / 10, d.exponent + 1⟩ else d

/-- No decimal of 17 digits misses the interval. -/
def shortest (d : Double) : Decimal :=
  let (n, den) := d.ratio
  -- One place coarser than the first digit, to be safe.
  let magnitude : Int := (digitCount n : Int) - digitCount den
  (d.interval.search 20 (magnitude + 1)).trim 20

/-! ## Notation -/

/-- The decimal with digits `ds` and exponent `e`, of which the point stands behind `point`
digits. -/
def Decimal.text (d : Decimal) : String :=
  let ds := Nat.toDigits 10 d.digits
  let point : Int := ds.length + d.exponent
  let zeros (n : Int) : List Char := List.replicate n.toNat '0'
  .ofList <|
    if 0 ≤ d.exponent ∧ point ≤ 16 then ds ++ zeros d.exponent ++ ['.', '0']
    else if 0 < point ∧ point ≤ 16 then ds.take point.toNat ++ '.' :: ds.drop point.toNat
    else if -5 < point ∧ point ≤ 0 then '0' :: '.' :: zeros (-point) ++ ds
    else
      ds.take 1 ++ (if ds.length = 1 then [] else '.' :: ds.drop 1) ++ 'e' ::
        (if 0 < point then ['+'] else []) ++ (toString (point - 1)).toList

def text (d : Double) : String :=
  if d.isZero then "0.0" else d.shortest.text

end PriorityLexer.Double
