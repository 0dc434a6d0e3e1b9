/-!
# Double — magnitudes of double precision

A magnitude is a whole number of at most 53 bits times a power of two.

* `Double` — magnitudes;
* `Double.ofRatio?` — the magnitude nearest to a fraction, the even one of two; there is none where
  the fraction is too large;
* `Double.ofDecimal?` — the magnitude of a whole number times a power of ten, found by one operation
  on rounded operands for up to 308 places.
-/

namespace PriorityLexer

/-- The value `mantissa * 2 ^ exponent`.  The mantissa has 53 bits unless the exponent is the least
one; zero has the least exponent. -/
structure Double where
  mantissa : Nat
  exponent : Int
deriving DecidableEq, Repr

namespace Double

/-- The exponent of the smallest magnitudes. -/
def leastExponent : Int := -1074

def greatestExponent : Int := 971

def zero : Double := ⟨0, leastExponent⟩

def isZero (d : Double) : Bool := d.mantissa = 0

/-- The whole number nearest to a fraction, the even one of two. -/
def roundDiv (num den : Nat) : Nat :=
  let q := num / den
  let twice := 2 * (num % den)
  if twice < den then q else if twice = den then q + q % 2 else q + 1

/-- Numerator and denominator of `n * 2 ^ e`. -/
def scaled (n : Nat) (e : Int) : Nat × Nat :=
  (n * .pow 2 e.toNat, .pow 2 (-e).toNat)

/-- The exponent for a fraction: the mantissa then has 53 bits, unless the exponent is the least. -/
def exponentOf (num den : Nat) : Int :=
  -- The quotient has 53 bits or one more.
  let estimate : Int := (Nat.log2 num : Int) - Nat.log2 den - 53
  let (n, d) := scaled num (-estimate)
  let exponent := if n / (d * den) < .pow 2 53 then estimate else estimate + 1
  max exponent leastExponent

def ofRatio? (num den : Nat) : Option Double :=
  if num = 0 then some zero
  else
    let exponent := exponentOf num den
    let (n, d) := scaled num (-exponent)
    let mantissa := roundDiv n (d * den)
    -- Rounding may carry into one more bit.
    let (mantissa, exponent) :=
      if mantissa = .pow 2 53 then (.pow 2 52, exponent + 1) else (mantissa, exponent)
    if greatestExponent < exponent then none else some ⟨mantissa, exponent⟩

/-- The value as a fraction. -/
def ratio (d : Double) : Nat × Nat :=
  scaled d.mantissa d.exponent

def mul? (a b : Double) : Option Double :=
  let (n, d) := a.ratio
  let (n', d') := b.ratio
  ofRatio? (n * n') (d * d')

def div? (a b : Double) : Option Double :=
  let (n, d) := a.ratio
  let (n', d') := b.ratio
  ofRatio? (n * d') (d * n')

/-- The most places by which a number is shifted at once. -/
def mostPlaces : Nat := 308

/-- Shifts a magnitude by `places` decimal places to the right. -/
def shiftRight? (d : Double) (places : Nat) : Option Double := do
  let power ← ofRatio? (.pow 10 places) 1
  d.div? power

/-- Shifts a magnitude far to the right in steps, until nothing is left. -/
def shiftFar? : Nat → Double → Nat → Option Double
  | 0, d, _ => some d
  | fuel + 1, d, places =>
    if places ≤ mostPlaces then d.shiftRight? places
    else if d.isZero then some d
    else
      match d.shiftRight? mostPlaces with
      | none => none
      | some d => shiftFar? fuel d (places - mostPlaces)

/-- The magnitude of `n * 10 ^ exponent`, where zero may have any exponent. -/
def ofDecimal? (n : Nat) (exponent : Int) : Option Double := do
  let d ← ofRatio? n 1
  if 0 ≤ exponent then
    if exponent.toNat ≤ mostPlaces then
      let power ← ofRatio? (.pow 10 exponent.toNat) 1
      d.mul? power
    else if d.isZero then some d
    else none
  else d.shiftFar? 4 (-exponent).toNat

end Double

end PriorityLexer
