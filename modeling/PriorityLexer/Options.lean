import PriorityLexer.Definition

/-!
# Options — settings of a lexer, and configurations
-/

namespace PriorityLexer

structure Options where
  /-- Whether letters match in either case, unless a regular expression says otherwise. -/
  ignoreCase : Bool
deriving DecidableEq, Repr

/-- Case counts unless it is said otherwise. -/
def Options.default : Options := ⟨false⟩

/-- All that is needed to build a lexer. -/
structure Config (κ : Type) where
  tokens : Definitions κ
  options : Options
deriving DecidableEq, Repr

end PriorityLexer
