import PriorityLexer.Escape

/-!
# Definition — kinds of tokens and what they look like

A definition pairs a kind with a pattern.  The order of definitions is their priority, the first one
being the strongest.

* `Pattern` — a text that is meant as it stands, or the source of a regular expression;
* `Pattern.fragment` — the regular expression of a pattern;
* `Pattern.wholeOf` — the regular expression that matches one text and nothing more;
* `Definition`, `Definitions` — definitions, and lists of them.
-/

namespace PriorityLexer

inductive Pattern where
  | literal (text : String)
  | regex (source : String)
deriving DecidableEq, Repr

namespace Pattern

def fragment : Pattern → String
  | .literal text => escape text
  | .regex source => source

/-- Anchored at both ends of the input. -/
def wholeOf (text : String) : Pattern :=
  .regex ("^(?:" ++ escape text ++ ")$")

end Pattern

structure Definition (κ : Type) where
  kind : κ
  pattern : Pattern
deriving DecidableEq, Repr

/-- Definitions, highest priority first. -/
structure Definitions (κ : Type) where
  toList : List (Definition κ)
deriving DecidableEq, Repr

namespace Definitions

variable {κ : Type}

def empty : Definitions κ := ⟨[]⟩

def ofList (ds : List (Definition κ)) : Definitions κ := ⟨ds⟩

/-- Adds a definition of the lowest priority. -/
def push (ds : Definitions κ) (d : Definition κ) : Definitions κ := ⟨ds.toList ++ [d]⟩

def get? (ds : Definitions κ) (index : Nat) : Option (Definition κ) := ds.toList[index]?

def size (ds : Definitions κ) : Nat := ds.toList.length

def isEmpty (ds : Definitions κ) : Bool := ds.toList.isEmpty

def kinds (ds : Definitions κ) : List κ := ds.toList.map (·.kind)

end Definitions

end PriorityLexer
