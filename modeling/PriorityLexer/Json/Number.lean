import PriorityLexer.Decimal.Double

/-!
# Number — numbers of a JSON text

A number is kept exactly if it is whole and fits into 64 bits; any other number becomes a magnitude
of double precision.

* `Flaw` — the two ways in which a text is no JSON text;
* `Number` — values of numbers;
* `Scan` — what is found at a place: something complete and the rest of the text, or a flaw;
* `scanNumber` — a number at the start of a text.

A reader takes a value in or passes over it.  The two may find different flaws, so a scan tells
both; and some things can be passed over although they have no value.
-/

namespace PriorityLexer.Json

inductive Flaw where
  | malformed
  | truncated
deriving DecidableEq, Repr

/-- The outcome of a scan for values in `α`. -/
inductive Scan (α : Type) where
  | found (value : α) (rest : List Char)
  /-- Complete, but without a value. -/
  | valueless (rest : List Char)
  /-- The flaw for a reader that takes the value in, and for one that passes over it. -/
  | broken (read skip : Flaw)

/-- White space between the parts of a text. -/
def isSpace (c : Char) : Bool :=
  c = ' ' || c = '\t' || c = '\n' || c = '\r'

def skipSpace (cs : List Char) : List Char :=
  cs.dropWhile isSpace

/-! ## Values -/

inductive Number where
  /-- At most `2 ^ 64 - 1`. -/
  | natural (n : Nat)
  /-- The number `-n`, at least `-2 ^ 63` and below zero. -/
  | negative (n : Nat)
  | double (negative : Bool) (magnitude : Double)
deriving DecidableEq, Repr

/-! ## Parts of a number -/

def isDigit (c : Char) : Bool :=
  '0' ≤ c && c ≤ '9'

def digitValue (c : Char) : Nat :=
  c.toNat - '0'.toNat

/-- The exponent of ten behind the letter, with its sign. -/
structure Power where
  negative : Bool
  digits : List Char

/-- A number as it is written. -/
structure Numeral where
  negative : Bool
  whole : List Char
  fraction : List Char
  power : Option Power

namespace Numeral

/-- The greatest whole number that is kept exactly. -/
def greatest : Nat := .pow 2 64 - 1

/-- The greatest exponent that is counted. -/
def greatestPower : Nat := .pow 2 31 - 1

/-- Appends digits to a whole number as long as it stays exact; the rest is left over. -/
def absorb (n : Nat) : List Char → Nat × List Char
  | [] => (n, [])
  | d :: ds =>
    if greatest < 10 * n + digitValue d then (n, d :: ds) else absorb (10 * n + digitValue d) ds

/-- The whole number of the digits that are kept, and the power of ten that it is to be multiplied
by. -/
def decimal (u : Numeral) : Nat × Int :=
  let (n, left) := absorb 0 u.whole
  let (n, dropped) := absorb n u.fraction
  (n, left.length - (u.fraction.length - dropped.length : Nat))

/-- The power of ten behind the letter, unless it is too large to be counted. -/
def powerValue? (p : Power) : Option Int :=
  let n := p.digits.foldl (fun n d => 10 * n + digitValue d) 0
  if greatestPower < n then none else some (if p.negative then -n else n)

/-- A power too large to be counted makes the number zero or too large. -/
def double? (u : Numeral) : Option Double :=
  let (n, exponent) := u.decimal
  match u.power with
  | none => Double.ofDecimal? n exponent
  | some p =>
    match powerValue? p with
    | some power => Double.ofDecimal? n (exponent + power)
    | none => if p.negative || n = 0 then some .zero else none

/-- The value of a numeral, unless it is too large.  A whole number that does not fit, and zero
with a sign, become doubles. -/
def value? (u : Numeral) : Option Number :=
  let (n, left) := absorb 0 u.whole
  if u.fraction.isEmpty && u.power.isNone && left.isEmpty then
    if !u.negative then some (.natural n)
    else if 0 < n ∧ n ≤ .pow 2 63 then some (.negative n)
    else (Double.ofDecimal? n 0).map (.double true)
  else u.double?.map (.double u.negative)

end Numeral

/-! ## Scanning -/

/-- The flaw of a number whose next digit is missing. -/
def missingDigit (rest : List Char) : Scan Number :=
  if rest.isEmpty then .broken .truncated .malformed else .broken .malformed .malformed

def finishNumber (u : Numeral) (rest : List Char) : Scan Number :=
  match u.value? with
  | some n => .found n rest
  | none => .valueless rest

/-- Reads the exponent, if there is one. -/
def scanPower (u : Numeral) (rest : List Char) : Scan Number :=
  match rest with
  | [] => finishNumber u []
  | c :: after =>
    if c = 'e' ∨ c = 'E' then
      let negative := after.head? = some '-'
      let digits := if negative ∨ after.head? = some '+' then after.drop 1 else after
      match digits.takeWhile isDigit with
      | [] => missingDigit digits
      | ds => finishNumber { u with power := some ⟨negative, ds⟩ } (digits.dropWhile isDigit)
    else finishNumber u (c :: after)

/-- Reads the fraction, if there is one. -/
def scanFraction (u : Numeral) (rest : List Char) : Scan Number :=
  match rest with
  | '.' :: after =>
    match after.takeWhile isDigit with
    | [] => missingDigit after
    | ds => scanPower { u with fraction := ds } (after.dropWhile isDigit)
  | _ => scanPower u rest

/-- Reads a number; a zero cannot be followed by another digit. -/
def scanNumber (cs : List Char) : Scan Number :=
  let negative := cs.head? = some '-'
  let digits := if negative then cs.drop 1 else cs
  match digits.takeWhile isDigit with
  | [] => missingDigit digits
  | '0' :: _ :: _ => .broken .malformed .malformed
  | whole => scanFraction ⟨negative, whole, [], none⟩ (digits.dropWhile isDigit)

end PriorityLexer.Json
