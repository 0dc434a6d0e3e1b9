import PriorityLexer.Source.Fault
import PriorityLexer.Unicode.Query

/-!
# Tree — the structure of a regular expression as it is written

Every part keeps the span that it was read from, for faults that are found after reading.

* `Atom` — the smallest parts: characters, escapes, assertions;
* `ClassTree` — what stands between brackets;
* `Tree` — a regular expression;
* `Tree.tooDeep?` — the first part, outermost first, that is nested deeper than `nestLimit`.
-/

namespace PriorityLexer.Source

/-! ## Atoms -/

/-- A single character; `isByte` tells whether it is written as `\x` with two digits. -/
structure Literal where
  span : Span
  char : Char
  isByte : Bool
deriving DecidableEq, Repr

inductive Shorthand where
  | digit | space | word
deriving DecidableEq, Repr

inductive Assertion where
  | lineStart | lineEnd | textStart | textEnd
  | boundary | notBoundary | wordStart | wordEnd | wordStartHalf | wordEndHalf
deriving DecidableEq, Repr

inductive Atom where
  | literal (l : Literal)
  | dot (span : Span)
  | assertion (span : Span) (kind : Assertion)
  | shorthand (span : Span) (negated : Bool) (kind : Shorthand)
  | property (span : Span) (negated : Bool) (query : Unicode.Query)
deriving DecidableEq, Repr

def Atom.span : Atom → Span
  | .literal l => l.span
  | .dot span | .assertion span _ | .shorthand span _ _ | .property span _ _ => span

/-! ## Classes -/

/-- The classes of ASCII characters that have a name. -/
inductive AsciiClass where
  | alnum | alpha | ascii | blank | cntrl | digit | graph | lower | print | punct | space | upper
  | word | xdigit
deriving DecidableEq, Repr

def AsciiClass.find? : String → Option AsciiClass
  | "alnum" => some .alnum
  | "alpha" => some .alpha
  | "ascii" => some .ascii
  | "blank" => some .blank
  | "cntrl" => some .cntrl
  | "digit" => some .digit
  | "graph" => some .graph
  | "lower" => some .lower
  | "print" => some .print
  | "punct" => some .punct
  | "space" => some .space
  | "upper" => some .upper
  | "word" => some .word
  | "xdigit" => some .xdigit
  | _ => none

inductive SetOperator where
  | inter | diff | symmDiff
deriving DecidableEq, Repr

inductive ClassTree where
  | empty (span : Span)
  | literal (l : Literal)
  | range (span : Span) (lo hi : Literal)
  | ascii (span : Span) (negated : Bool) (kind : AsciiClass)
  | shorthand (span : Span) (negated : Bool) (kind : Shorthand)
  | property (span : Span) (negated : Bool) (query : Unicode.Query)
  | bracketed (span : Span) (negated : Bool) (inner : ClassTree)
  /-- Two or more members. -/
  | union (span : Span) (members : List ClassTree)
  | operation (span : Span) (operator : SetOperator) (lhs rhs : ClassTree)
deriving Repr

def ClassTree.span : ClassTree → Span
  | .literal l => l.span
  | .empty span | .range span _ _ | .ascii span _ _ | .shorthand span _ _ | .property span _ _
  | .bracketed span _ _ | .union span _ | .operation span _ _ _ => span

/-! ## Regular expressions -/

inductive Flag where
  | ignoreCase | multiLine | dotAll | crlf | swapGreed | unicode | ignoreSpace
deriving DecidableEq, Repr

/-- Flags in the order in which they are switched on or off. -/
abbrev FlagChanges := List (Flag × Bool)

/-- What the changes say of a flag, if they mention it. -/
def FlagChanges.setting? (changes : FlagChanges) (flag : Flag) : Option Bool :=
  (List.find? (·.1 = flag) changes).map (·.2)

inductive GroupKind where
  | capture
  | named (span : Span) (name : String)
  | plain (changes : FlagChanges)
deriving DecidableEq, Repr

structure Quantifier where
  min : Nat
  max : Option Nat
  greedy : Bool
deriving DecidableEq, Repr

inductive Tree where
  | empty (span : Span)
  | flags (span : Span) (changes : FlagChanges)
  | atom (a : Atom)
  | bracketed (span : Span) (negated : Bool) (inner : ClassTree)
  | repetition (span : Span) (quantifier : Quantifier) (inner : Tree)
  | group (span : Span) (kind : GroupKind) (inner : Tree)
  /-- Two or more parts in sequence. -/
  | concat (span : Span) (parts : List Tree)
  /-- Two or more branches. -/
  | alternation (span : Span) (branches : List Tree)
deriving Repr

namespace Tree

def span : Tree → Span
  | .atom a => a.span
  | .empty span | .flags span _ | .bracketed span _ _ | .repetition span _ _ | .group span _ _
  | .concat span _ | .alternation span _ => span

/-- Whether a quantifier may follow. -/
def isRepeatable : Tree → Bool
  | .empty _ | .flags _ _ => false
  | _ => true

end Tree

/-! ## Nesting -/

mutual

/-- The first part nested too deep, where `depth` parts lie around this one. -/
def ClassTree.tooDeep? (depth : Nat) : ClassTree → Option Span
  | .bracketed span _ inner =>
    if nestLimit ≤ depth then some span else inner.tooDeep? (depth + 1)
  | .union span members =>
    if nestLimit ≤ depth then some span else ClassTree.anyTooDeep? (depth + 1) members
  | .operation span _ lhs rhs =>
    if nestLimit ≤ depth then some span
    else (lhs.tooDeep? (depth + 1)).or (rhs.tooDeep? (depth + 1))
  | _ => none

def ClassTree.anyTooDeep? (depth : Nat) : List ClassTree → Option Span
  | [] => none
  | t :: ts => (t.tooDeep? depth).or (ClassTree.anyTooDeep? depth ts)

end

mutual

/-- The first part nested too deep, where `depth` parts lie around this one. -/
def Tree.tooDeep? (depth : Nat) : Tree → Option Span
  | .bracketed span _ inner =>
    if nestLimit ≤ depth then some span else inner.tooDeep? (depth + 1)
  | .repetition span _ inner | .group span _ inner =>
    if nestLimit ≤ depth then some span else inner.tooDeep? (depth + 1)
  | .concat span parts | .alternation span parts =>
    if nestLimit ≤ depth then some span else Tree.anyTooDeep? (depth + 1) parts
  | _ => none

def Tree.anyTooDeep? (depth : Nat) : List Tree → Option Span
  | [] => none
  | t :: ts => (t.tooDeep? depth).or (Tree.anyTooDeep? depth ts)

end

end PriorityLexer.Source
