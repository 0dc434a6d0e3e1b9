/-!
# Hex — hexadecimal digits

* `hexDigit?` — the value of a digit, in either case;
* `hexText` — a number written with lower-case digits, without leading zeros.
-/

namespace PriorityLexer

def hexDigit? (c : Char) : Option Nat :=
  if '0' ≤ c ∧ c ≤ '9' then some (c.toNat - '0'.toNat)
  else if 'a' ≤ c ∧ c ≤ 'f' then some (c.toNat - 'a'.toNat + 10)
  else if 'A' ≤ c ∧ c ≤ 'F' then some (c.toNat - 'A'.toNat + 10)
  else none

def hexText (n : Nat) : String :=
  .ofList (Nat.toDigits 16 n)

end PriorityLexer
