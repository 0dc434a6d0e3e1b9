import PriorityLexer.Json.Printer
import PriorityLexer.Kind

/-!
# Token — pieces of an input with their kinds

Offsets count bytes from the start of the input.
-/

namespace PriorityLexer

structure Token (κ : Type) where
  kind : κ
  image : String
  startOffset : Nat
  nextOffset : Nat
deriving DecidableEq, Repr

namespace Token

variable {κ : Type}

/-- The offsets of a token, the second one excluded. -/
def span (t : Token κ) : Nat × Nat := (t.startOffset, t.nextOffset)

def toValue [KindFormat κ] (t : Token κ) : Json.Value :=
  .object
    [("type", KindFormat.toValue t.kind), ("image", .string t.image),
      ("startOffset", .number (.natural t.startOffset)),
      ("nextOffset", .number (.natural t.nextOffset))]

/-- The JSON text of a token. -/
def text [KindFormat κ] (t : Token κ) : String := t.toValue.text

end Token

end PriorityLexer
