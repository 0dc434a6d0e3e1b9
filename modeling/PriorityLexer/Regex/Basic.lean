import PriorityLexer.Text.Place
import PriorityLexer.Unicode.Property

/-!
# Basic — regular expressions with preferences

A regular expression says what matches and which of several matches is preferred: of two
alternatives the left one, of two repetitions the longer one if it is greedy and the shorter one
otherwise.

* `Look` — assertions about the characters before and behind a place, with `Look.holds`;
* `Regex` — expressions;
* `Regex.canBeEmpty`, `Regex.isOnlyEmpty` — whether the empty text is a match, or the only one;
* `Regex.repeated` — repetition in its reduced form;
* `Regex.ungrouped` — an expression without its groups.
-/

namespace PriorityLexer

/-! ## Assertions -/

/-- Which characters make up words. -/
inductive WordKind where
  | unicode | ascii
deriving DecidableEq, Repr

def WordKind.isWord : WordKind → Char → Bool
  | .unicode, c => Unicode.Property.word.contains c
  | .ascii, c => c.isAlphanum || c = '_'

inductive Look where
  | textStart | textEnd | lineStart | lineEnd | crlfLineStart | crlfLineEnd
  | boundary (kind : WordKind)
  | notBoundary (kind : WordKind)
  | wordStart (kind : WordKind)
  | wordEnd (kind : WordKind)
  | wordStartHalf (kind : WordKind)
  | wordEndHalf (kind : WordKind)
deriving DecidableEq, Repr

/-- Whether an assertion holds between two characters, either of which may be missing. -/
def Look.holdsBetween (before after : Option Char) : Look → Bool
  | .textStart => before.isNone
  | .textEnd => after.isNone
  | .lineStart => before.isNone || before = some '\n'
  | .lineEnd => after.isNone || after = some '\n'
  | .crlfLineStart =>
    before.isNone || before = some '\n' || (before = some '\r' && after ≠ some '\n')
  | .crlfLineEnd =>
    after.isNone || after = some '\r' || (after = some '\n' && before ≠ some '\r')
  | .boundary kind => before.any kind.isWord != after.any kind.isWord
  | .notBoundary kind => before.any kind.isWord == after.any kind.isWord
  | .wordStart kind => !before.any kind.isWord && after.any kind.isWord
  | .wordEnd kind => before.any kind.isWord && !after.any kind.isWord
  | .wordStartHalf kind => !before.any kind.isWord
  | .wordEndHalf kind => !after.any kind.isWord

def Look.holds (l : Look) (p : Place) : Bool :=
  l.holdsBetween p.before p.after.head?

/-! ## Expressions -/

inductive Regex where
  | empty
  /-- One character of the set. -/
  | chars (s : CharSet)
  /-- One byte of the set, whose members are bytes. -/
  | bytes (s : CharSet)
  | look (l : Look)
  | cat (a b : Regex)
  | alt (a b : Regex)
  /-- At least `min` and at most `max` times `r`, without a bound if there is no `max`. -/
  | repetition (min : Nat) (max : Option Nat) (greedy : Bool) (r : Regex)
  /-- A group that is told from all others. -/
  | capture (r : Regex)
deriving DecidableEq

namespace Regex

def catOf : List Regex → Regex
  | [] => .empty
  | [r] => r
  | r :: rs => .cat r (catOf rs)

def canBeEmpty : Regex → Bool
  | .empty | .look _ => true
  | .chars _ | .bytes _ => false
  | .cat a b => a.canBeEmpty && b.canBeEmpty
  | .alt a b => a.canBeEmpty || b.canBeEmpty
  | .repetition min _ _ r => min = 0 || r.canBeEmpty
  | .capture r => r.canBeEmpty

def isOnlyEmpty : Regex → Bool
  | .empty | .look _ => true
  | .chars _ | .bytes _ => false
  | .cat a b | .alt a b => a.isOnlyEmpty && b.isOnlyEmpty
  | .repetition _ _ _ r | .capture r => r.isOnlyEmpty

/-- What can match the empty text only is repeated once at most; no repetition is the empty text,
and a single one is the expression itself. -/
def repeated (min : Nat) (max : Option Nat) (greedy : Bool) (r : Regex) : Regex :=
  -- More than one copy of nothing is one copy.
  let (min, max) :=
    if r.isOnlyEmpty then (Nat.min min 1, some (max.elim 1 (Nat.min · 1))) else (min, max)
  if max = some 0 then .empty
  else if min = 1 ∧ max = some 1 then r
  else .repetition min max greedy r

/-- The expression without its groups, which make no difference to what matches. -/
def ungrouped : Regex → Regex
  | .cat a b => .cat a.ungrouped b.ungrouped
  | .alt a b => .alt a.ungrouped b.ungrouped
  | .repetition min max greedy r => .repetition min max greedy r.ungrouped
  | .capture r => r.ungrouped
  | r => r

theorem ungrouped_catOf (rs : List Regex) : (catOf rs).ungrouped = catOf (rs.map ungrouped) := by
  fun_induction catOf rs with
  | case1 => rfl
  | case2 r => rfl
  | case3 r rs hne ih =>
      rw [ungrouped, ih, List.map_cons, catOf]
      simpa using hne

end Regex

end PriorityLexer
