import PriorityLexer.Decimal.Shortest
import PriorityLexer.Json.Node
import PriorityLexer.Text.Quoted

/-!
# Mismatch — JSON texts that do not have the expected form

* `Mismatch`, `Mismatch.message` — what is wrong with a value, and its wording;
* `ReadError` — a mismatch or a flaw of the text, whichever comes first;
* `Node.readString`, `Node.readBool`, `Node.readWord` — readers of the simplest values;
* `Key.readString`, `Key.readWord` — readers of keys.

A container of the wrong kind is refused as soon as it opens.
-/

namespace PriorityLexer.Json

/-! ## Wording -/

def Number.describe : Number → String
  | .natural n => "integer `" ++ toString n ++ "`"
  | .negative n => "integer `-" ++ toString n ++ "`"
  | .double sign magnitude =>
    "floating point `" ++ (if sign then "-" else "") ++ magnitude.text ++ "`"

def Shape.describe : Shape → String
  | .null => "null"
  | .bool b => "boolean `" ++ toString b ++ "`"
  | .number n => n.describe
  | .string s => "string " ++ quoted s
  | .sequence => "sequence"
  | .map => "map"

inductive Mismatch where
  | invalidType (found : Shape) (expected : String)
  | invalidValue (found : Shape) (expected : String)
  | invalidLength (found : Nat) (expected : String)
  | missingField (name : String)
  | duplicateField (name : String)
  | noVariant (expected : String)
deriving DecidableEq, Repr

def Mismatch.message : Mismatch → String
  | .invalidType found expected => "invalid type: " ++ found.describe ++ ", expected " ++ expected
  | .invalidValue found expected => "invalid value: " ++ found.describe ++ ", expected " ++ expected
  | .invalidLength found expected =>
    "invalid length " ++ toString found ++ ", expected " ++ expected
  | .missingField name => "missing field `" ++ name ++ "`"
  | .duplicateField name => "duplicate field `" ++ name ++ "`"
  | .noVariant expected => "data did not match any variant of " ++ expected

/-! ## Readers -/

inductive ReadError where
  | mismatch (m : Mismatch)
  | flaw (f : Flaw)
deriving DecidableEq, Repr

def orFlaw {α : Type} : Except Flaw α → Except ReadError α
  | .ok a => .ok a
  | .error f => .error (.flaw f)

namespace Node

/-- What is found where something else is expected; a value that breaks off is not found. -/
def unexpected (expected : String) (n : Node) : ReadError :=
  let wrong (s : Shape) : ReadError := .mismatch (.invalidType s expected)
  match n with
  | .null => wrong .null
  | .bool b => wrong (.bool b)
  | .number n => wrong (.number n)
  | .string s => wrong (.string s)
  | .array _ _ => wrong .sequence
  | .object _ _ => wrong .map
  | .valueless => .flaw .malformed
  | .broken read _ => .flaw read

def readString : Node → Except ReadError String
  | .string s => .ok s
  | n => .error (n.unexpected "a string")

def readBool : Node → Except ReadError Bool
  | .bool b => .ok b
  | n => .error (n.unexpected "a boolean")

/-- The greatest number of 32 bits. -/
def greatestWord : Nat := .pow 2 32 - 1

def wordOf (n : Number) : Except ReadError UInt32 :=
  match n with
  | .natural k =>
    if k ≤ greatestWord then .ok (.ofNat k)
    else .error (.mismatch (.invalidValue (.number n) "u32"))
  | .negative _ => .error (.mismatch (.invalidValue (.number n) "u32"))
  | .double _ _ => .error (.mismatch (.invalidType (.number n) "u32"))

def readWord : Node → Except ReadError UInt32
  | .number n => wordOf n
  | n => .error (n.unexpected "u32")

end Node

namespace Key

def readString (key : Key) : Except ReadError String :=
  orFlaw key.text.read

/-- Reads a key that is a number; its range is checked before its end is. -/
def readWord (key : Key) : Except ReadError UInt32 :=
  if key.raw.head?.any fun c => c = '-' || isDigit c then
    match scanNumber key.raw with
    | .broken read _ => .error (.flaw read)
    | .valueless _ => .error (.flaw .malformed)
    | .found n rest => do
      let w ← Node.wordOf n
      if rest.head? = some '"' then .ok w else .error (.flaw .malformed)
  else .error (.flaw .malformed)

end Key

end PriorityLexer.Json
