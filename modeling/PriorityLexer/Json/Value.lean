import PriorityLexer.Json.Number

/-!
# Value — the values of a JSON text

The entries of an object keep their order, and a key may occur more than once.

* `Value` — values;
* `Shape` — what a message says of a value that is not of the expected kind.
-/

namespace PriorityLexer.Json

inductive Value where
  | null
  | bool (b : Bool)
  | number (n : Number)
  | string (s : String)
  | array (items : List Value)
  | object (entries : List (String × Value))
deriving Repr

/-- The text of a number in a message. -/
inductive Shape where
  | null
  | bool (b : Bool)
  | number (n : Number)
  | string (s : String)
  | sequence
  | map
deriving DecidableEq, Repr

def Value.shape : Value → Shape
  | .null => .null
  | .bool b => .bool b
  | .number n => .number n
  | .string s => .string s
  | .array _ => .sequence
  | .object _ => .map

end PriorityLexer.Json
