/-!
# Error — why a lexer cannot be built, or an input cannot be divided into tokens

* `InvalidPattern` — a definition that is no regular expression, or definitions too large together;
* `TokenizeError` — a place in the input where no token starts;
* `LexerError` — either of the two.
-/

namespace PriorityLexer

structure InvalidPattern where
  /-- The definition at fault; there is none if all together are. -/
  index : Option Nat
  reason : String
deriving DecidableEq, Repr

def InvalidPattern.message (e : InvalidPattern) : String :=
  match e.index with
  | some i => "invalid token pattern for definition #" ++ toString i ++ ": " ++ e.reason
  | none => "invalid token pattern: " ++ e.reason

structure TokenizeError where
  offset : Nat
deriving DecidableEq, Repr

def TokenizeError.message (e : TokenizeError) : String :=
  "failed to tokenize input at offset " ++ toString e.offset

inductive LexerError where
  | invalidPattern (e : InvalidPattern)
  | tokenize (e : TokenizeError)
deriving DecidableEq, Repr

/-- The message of the error itself, with nothing added. -/
def LexerError.message : LexerError → String
  | .invalidPattern e => e.message
  | .tokenize e => e.message

end PriorityLexer
