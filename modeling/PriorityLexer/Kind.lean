import PriorityLexer.Json.Mismatch

/-!
# Kind — the kinds of tokens that can be written in JSON

A kind is a text or a number of 32 bits.  As a key of an object, a number is written in quotation
marks.
-/

namespace PriorityLexer

open Json

class KindFormat (κ : Type) where
  ofNode : Node → Except ReadError κ
  ofKey : Key → Except ReadError κ
  toValue : κ → Value

instance : KindFormat String where
  ofNode := Node.readString
  ofKey := Key.readString
  toValue := .string

instance : KindFormat UInt32 where
  ofNode := Node.readWord
  ofKey := Key.readWord
  toValue k := .number (.natural k.toNat)

end PriorityLexer
